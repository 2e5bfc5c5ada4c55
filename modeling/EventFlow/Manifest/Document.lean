import EventFlow.Document.Record
import EventFlow.Manifest.Read

/-!
# Manifests as documents

The document of a manifest has all its fields, also the empty ones, and keeps the order of the
declarations. Reading it gives the manifest back; besides, a record may be given as the list of its
fields in order, where fields at the end may be missing.
-/

namespace EventFlow

/-! ### Reading -/

namespace Document

/-- The items of a list. -/
def items? : Document → Option (List Document)
  | list items => some items
  | _ => none

/-- The fields of a table. -/
def entries? : Document → Option (List (String × Document))
  | table fields => some fields
  | _ => none

/-- Everything but null. -/
def optional : Document → Option Document
  | null => none
  | d => some d

/-- The fields of a record: by name in a table, by position in a list that is not too long. -/
def record? (names : List String) : Document → Option (String → Option Document)
  | table fields => some fun name => lookupField name fields
  | list items =>
    if items.length ≤ names.length then some fun name => lookupField name (names.zip items)
    else none
  | _ => none

/-- A word, or a table with one field. -/
def choice? : Document → Option (String × Option Document)
  | text s => some (s, none)
  | table [(name, value)] => some (name, some value)
  | _ => none

/-- The bound of a lift. -/
def liftBound? : Option Document → Option (Option Nat)
  | none => some none
  | some null => some none
  | some (int n) => (bound? n).map some
  | some _ => none

/-- The function of a lift, as a text or as a table. -/
def lift? : Document → Option Lift
  | text function => some (.plain function)
  | table fields => do
    let function ← (lookupField "function" fields).bind asText
    return .bounded function (← liftBound? (lookupField "concurrency" fields))
  | _ => none

instance : View Option Document where
  refuse := none
  text := asText
  optional d := some d.optional
  items := items?
  entries := entries?
  fields := record?
  choice := choice?
  lift := lift?

end Document

/-- The manifest of a document. -/
def Manifest.ofDocument? (d : Document) : Option Manifest :=
  Manifest.read d

/-! ### Writing -/

/-- The document of a lift. -/
def Lift.document : Lift → Document
  | plain function => .text function
  | bounded function concurrency =>
    .table [("function", .text function),
      ("concurrency", (concurrency.map Document.ofNat).getD .null)]

/-- The document of a step. -/
def Step.document (step : Step) : Document :=
  match step with
  | source bus typeName categories =>
    .table [(step.name, .table [("bus", .text bus), ("type", .text typeName),
      ("categories", Document.ofTexts categories)])]
  | join function => .table [(step.name, .text function)]
  | lift l => .table [(step.name, l.document)]
  | wrap => .text step.name
  | unit => .text step.name
  | toQueue queue => .table [(step.name, .text queue)]
  | toEventBus bus origin categories =>
    .table [(step.name, .table [("bus", .text bus), ("source", .text origin),
      ("categories", Document.ofTexts categories)])]

/-- The document of a function's declaration. -/
def FunctionDecl.document (f : FunctionDecl) : Document :=
  .table [("uri", .text f.uri), ("input", .text f.input), ("output", .text f.output)]

namespace Manifest

/-- The document of some declarations. -/
def registryDocument {α : Type} (value : α → Document) (r : Registry α) : Document :=
  .table (r.entries.map fun entry => (entry.1, value entry.2))

/-- The document of an address. -/
def uriDocument (uri : String) : Document :=
  .table [("uri", .text uri)]

/-- The document of a manifest. -/
def document (m : Manifest) : Document :=
  .table [
    ("version", .text m.version),
    ("pipeline", .table [
      ("name", .text m.name),
      ("event_buses", registryDocument uriDocument m.eventBuses),
      ("queues", registryDocument uriDocument m.queues),
      ("functions", registryDocument FunctionDecl.document m.functions),
      ("dead_letter_queue", Document.ofText? m.deadLetterQueue),
      ("steps", .list (m.steps.map Step.document))])]

end Manifest

end EventFlow
