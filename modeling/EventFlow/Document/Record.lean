import EventFlow.Document.Basic

/-!
# Records in documents

Settings are read from documents in which a record is a table or the list of its fields in order,
and a choice between words is a text or a table with the word as its only key. The formats differ
in two points, which make up a `Dialect`: what may stand under that key, and whether a list may be
longer than its record.
-/

namespace EventFlow

/-- How a format writes records and choices. -/
structure Dialect where
  /-- What may stand under the only key of a choice. -/
  isUnit : Document → Bool
  /-- Whether a list may be longer than its record. -/
  openLists : Bool

namespace Dialect

/-- Nothing but null stands under the only key of a choice. -/
def json : Dialect where
  isUnit d := match d with
    | .null => true
    | _ => false
  openLists := false

/-- Nothing but an empty list or table stands under the only key of a choice. -/
def toml : Dialect where
  isUnit d := match d with
    | .list [] => true
    | .table [] => true
    | _ => false
  openLists := true

/-- The word of a choice. -/
def word? (dialect : Dialect) : Document → Option String
  | .text word => some word
  | .table [(word, value)] => if dialect.isUnit value then some word else none
  | _ => none

/-- The fields of a record, given their names in order. A list must have the first `required` of
them. -/
def fields? (dialect : Dialect) (names : List String) (required : Nat) :
    Document → Option (String → Option Document)
  | .table fields => some fun name => Document.lookupField name fields
  | .list items =>
    if required ≤ items.length && (dialect.openLists || items.length ≤ names.length) then
      some fun name => Document.lookupField name (names.zip items)
    else none
  | _ => none

end Dialect

namespace Document

/-- A field that is read in one way when it is there and has a default otherwise. -/
def readOr {α : Type} (default : α) (read : Document → Option α) : Option Document → Option α
  | none => some default
  | some d => read d

/-- Null, or something that is read. -/
def nullable {α : Type} (read : Document → Option α) : Document → Option (Option α)
  | null => some none
  | d => (read d).map some

/-- A field that is a text. -/
def asText : Document → Option String
  | text s => some s
  | _ => none

/-- A field that is a truth value. -/
def asBool : Document → Option Bool
  | bool b => some b
  | _ => none

end Document

end EventFlow
