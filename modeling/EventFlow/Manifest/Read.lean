import EventFlow.Document.Basic
import EventFlow.Manifest.Basic

/-!
# Reading manifests

A manifest is read from a tree of data. Trees come in two kinds, documents and nodes of YAML, which
differ in what counts as a text, as nothing, or as a record; `View` holds these differences, and
`Manifest.read` says once for both kinds what a manifest looks like. Fields that are not known are
passed over.
-/

namespace EventFlow

/-- How to look into a tree of data, with steps that may fail. -/
class View (m : outParam (Type → Type)) (σ : Type) where
  /-- Fails. -/
  refuse : {α : Type} → m α
  /-- A text. -/
  text : σ → m String
  /-- Something, or nothing. -/
  optional : σ → m (Option σ)
  /-- The items of a list. -/
  items : σ → m (List σ)
  /-- The names of a table and what they stand for, in order. -/
  entries : σ → m (List (String × σ))
  /-- The fields of a record, which has some names in a fixed order. -/
  fields : List String → σ → m (String → Option σ)
  /-- A choice: a word, which may come with a tree. -/
  choice : σ → m (String × Option σ)
  /-- The function of a lift, perhaps with a bound. -/
  lift : σ → m Lift

/-- The bounds that a lift may have. -/
def bound? (n : Int) : Option Nat :=
  if 0 ≤ n && n < (Nat.pow 2 64 : Int) then some n.toNat else none

namespace Manifest

section Read

variable {m : Type → Type} {σ : Type} [Monad m] [View m σ]

/-- A field that must be there. -/
def required (value : Option σ) : m σ :=
  match value with
  | some v => pure v
  | none => View.refuse σ

/-- A field that is read in one way when it is there and has a default otherwise. -/
def orDefault {α : Type} (value : Option σ) (default : α) (read : σ → m α) : m α :=
  match value with
  | some v => read v
  | none => pure default

/-- A list of texts. -/
def readTexts (v : σ) : m (List String) := do
  (← View.items v).mapM View.text

/-- The declarations under some names. -/
def readRegistry {α : Type} (read : σ → m α) (v : σ) : m (Registry α) := do
  let entries ← (← View.entries v).mapM fun entry => do
    return (entry.1, ← read entry.2)
  return Registry.ofList entries

/-- The declaration of a bus or a queue. -/
def readUri (v : σ) : m String := do
  let field ← View.fields ["uri"] v
  View.text (← required (field "uri"))

/-- The declaration of a function. -/
def readFunction (v : σ) : m FunctionDecl := do
  let field ← View.fields ["uri", "input", "output"] v
  return {
    uri := ← View.text (← required (field "uri"))
    input := ← View.text (← required (field "input"))
    output := ← View.text (← required (field "output")) }

/-- A step. -/
def readStep (v : σ) : m Step := do
  match ← View.choice v with
  | ("wrap", none) => return .wrap
  | ("unit", none) => return .unit
  | ("join", some v) => return .join (← View.text v)
  | ("lift", some v) => return .lift (← View.lift v)
  | ("to_queue", some v) => return .toQueue (← View.text v)
  | ("from", some v) =>
    let field ← View.fields ["bus", "type", "categories"] v
    return .source
      (← View.text (← required (field "bus")))
      (← View.text (← required (field "type")))
      (← orDefault (field "categories") [] readTexts)
  | ("to_event_bus", some v) =>
    let field ← View.fields ["bus", "source", "categories"] v
    return .toEventBus
      (← View.text (← required (field "bus")))
      (← View.text (← required (field "source")))
      (← orDefault (field "categories") [] readTexts)
  | _ => View.refuse σ

/-- The queue for the input of failed calls. -/
def readOptionalText (v : σ) : m (Option String) := do
  match ← View.optional v with
  | none => return none
  | some v => return some (← View.text v)

/-- A manifest. -/
def read (v : σ) : m Manifest := do
  let root ← View.fields ["version", "pipeline"] v
  let version ← View.text (← required (root "version"))
  let pipeline ← required (root "pipeline")
  let field ← View.fields
    ["name", "event_buses", "queues", "functions", "dead_letter_queue", "steps"] pipeline
  return {
    version
    name := ← View.text (← required (field "name"))
    eventBuses := ← orDefault (field "event_buses") {} (readRegistry readUri)
    queues := ← orDefault (field "queues") {} (readRegistry readUri)
    functions := ← orDefault (field "functions") {} (readRegistry readFunction)
    deadLetterQueue := ← orDefault (field "dead_letter_queue") none readOptionalText
    steps := ← orDefault (field "steps") [] fun v => do (← View.items v).mapM readStep }

end Read

end Manifest

end EventFlow
