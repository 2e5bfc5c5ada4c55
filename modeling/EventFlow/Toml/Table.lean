import EventFlow.Document.Basic
import EventFlow.Toml.Parse

/-!
# Tables in TOML

A table may be defined by a header, implied by the header of a table inside it, or opened by a key
with dots. A header defines each table once, and only one that is new or implied; a key with dots
goes only into tables that such keys opened. Values and the tables written between braces are
closed, and a list of tables grows by one with each of its headers.
-/

namespace EventFlow.Toml

/-- How a table came about. -/
inductive Origin where
  | header
  | implied
  | dotted
  deriving DecidableEq, Repr

/-- What a key stands for while a text is read. -/
inductive Item where
  | value (d : Document)
  | table (origin : Origin) (fields : List (String × Item))
  | tables (elements : List (List (String × Item)))
  deriving Repr, Inhabited

/-- The fields of a table that is being read. -/
abbrev Fields := List (String × Item)

mutual

/-- The document of an item. -/
def Item.document : Item → Document
  | .value d => d
  | .table _ fields => .table (documentOfFields fields)
  | .tables elements => .list (documentsOfElements elements)

/-- The documents of some fields. -/
def documentOfFields : List (String × Item) → List (String × Document)
  | [] => []
  | (key, item) :: fields => (key, item.document) :: documentOfFields fields

/-- The documents of some tables. -/
def documentsOfElements : List (List (String × Item)) → List Document
  | [] => []
  | fields :: elements => .table (documentOfFields fields) :: documentsOfElements elements

end

namespace Fields

/-- Changes what a key stands for; a new key goes to the end. -/
def update (key : String) (f : Option Item → Except Error Item) : Fields → Except Error Fields
  | [] => do return [(key, ← f none)]
  | (k, item) :: rest => do
    if k = key then return (k, ← f (some item)) :: rest
    else return (k, item) :: (← update key f rest)

/-- Changes the last of some tables. -/
def updateLast (f : Fields → Except Error Fields) :
    List Fields → Except Error (List Fields)
  | [] => return []
  | [last] => do return [← f last]
  | first :: second :: rest => do return first :: (← updateLast f (second :: rest))

/-- Puts a value under a key with dots, given as the names in front and the last one. -/
def insert (key : String) (value : Document) : List String → Fields → Except Error Fields
  | [], fields => update key (fun
      | none => return .value value
      | some _ => throw (.duplicate key)) fields
  | name :: path, fields => update name (fun
      | none => do return .table .dotted (← insert key value path [])
      | some (.value _) => throw (.duplicate name)
      | some (.table .header _) => throw (.duplicate name)
      | some (.table .implied inner) => do
        if path.isEmpty then throw (.duplicate name)
        return .table .implied (← insert key value path inner)
      | some (.table .dotted inner) => do
        return .table .dotted (← insert key value path inner)
      | some (.tables elements) => do
        if path.isEmpty then throw (.duplicate name)
        return .tables (← updateLast (insert key value path) elements)) fields

/-- Changes the table that some names lead to, where a list of tables stands for its last one.
Tables on the way are implied. -/
def within (f : Fields → Except Error Fields) : List String → Fields → Except Error Fields
  | [], fields => f fields
  | name :: path, fields => update name (fun
      | none => do return .table .implied (← within f path [])
      | some (.value _) => throw (.duplicate name)
      | some (.table origin inner) => do return .table origin (← within f path inner)
      | some (.tables elements) => do
        return .tables (← updateLast (within f path) elements)) fields

/-- Defines a table by its header. -/
def openTable (key : String) : List String → Fields → Except Error Fields :=
  within (update key fun
    | none => return .table .header []
    | some (.table .implied inner) => return .table .header inner
    | some _ => throw (.duplicate key))

/-- Adds a table to a list of tables by its header. -/
def addTable (key : String) : List String → Fields → Except Error Fields :=
  within (update key fun
    | none => return .tables [[]]
    | some (.tables elements) => return .tables (elements ++ [[]])
    | some _ => throw (.duplicate key))

end Fields

end EventFlow.Toml
