import EventFlow.Decimal.Binary64

/-!
# Documents

The trees that are written as JSON or YAML text and read from it: null, truth values, numbers,
texts, lists and tables. A table keeps its fields in the order in which they are written. Tables
that are read, and tables whose order carries no meaning, have increasing keys; `insertField` keeps
that order and lets a later value replace an earlier one.
-/

namespace EventFlow

/-- A tree of plain data. Integers range from `-2 ^ 63` to `2 ^ 64 - 1` in everything that is read
or written; other numbers are double-precision. -/
inductive Document where
  | null
  | bool (b : Bool)
  | int (n : Int)
  | float (x : Decimal.Binary64)
  | text (s : String)
  | list (items : List Document)
  | table (fields : List (String × Document))
  deriving Repr, Inhabited

namespace Document

/-- Puts a value under a key of a list of fields with increasing keys; an earlier value under the
same key is replaced. -/
def insertField {α : Type} (key : String) (value : α) :
    List (String × α) → List (String × α)
  | [] => [(key, value)]
  | (k, v) :: rest =>
    if key = k then (key, value) :: rest
    else if key < k then (key, value) :: (k, v) :: rest
    else (k, v) :: insertField key value rest

/-- The table of a list of fields, the last of several fields with one key winning. -/
def ofFields (fields : List (String × Document)) : Document :=
  .table (fields.foldl (fun t f => insertField f.1 f.2 t) [])

/-- The list of some texts. -/
def ofTexts (texts : List String) : Document :=
  .list (texts.map .text)

/-- A natural number. -/
def ofNat (n : Nat) : Document :=
  .int n

/-- A text, or null in its absence. -/
def ofText? : Option String → Document
  | none => .null
  | some s => .text s

/-- The value of the first field with a key. -/
def lookupField {α : Type} (key : String) (fields : List (String × α)) : Option α :=
  (fields.find? (·.1 == key)).map (·.2)

/-- The value under a key of a table. -/
def field? (key : String) : Document → Option Document
  | .table fields => lookupField key fields
  | _ => none

end Document

end EventFlow
