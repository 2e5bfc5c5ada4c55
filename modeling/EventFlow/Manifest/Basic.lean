import EventFlow.Manifest.Registry
import EventFlow.Pipeline.Node

/-!
# Manifests

A manifest declares the resources of a pipeline under names and lists the steps that compose it.
-/

namespace EventFlow

/-- A function: its address and the types of its argument and result. -/
structure FunctionDecl where
  uri : String
  input : String
  output : String
  deriving DecidableEq, Repr, Inhabited

/-- How a function is lifted over a list. -/
inductive Lift where
  | plain (function : String)
  | bounded (function : String) (concurrency : Option Nat)
  deriving DecidableEq, Repr, Inhabited

namespace Lift

/-- The name of the lifted function. -/
def function : Lift → String
  | plain f => f
  | bounded f _ => f

/-- On how many elements the function may run at the same time. -/
def concurrency : Lift → Nat
  | plain _ => 1
  | bounded _ n => n.getD 1

end Lift

/-- A step of a manifest. -/
inductive Step where
  | source (bus typeName : String) (categories : List String)
  | join (function : String)
  | lift (lift : Lift)
  | wrap
  | unit
  | toQueue (queue : String)
  | toEventBus (bus source : String) (categories : List String)
  deriving DecidableEq, Repr, Inhabited

namespace Step

/-- The name of a step. -/
def name : Step → String
  | source _ _ _ => "from"
  | join _ => "join"
  | lift _ => "lift"
  | wrap => "wrap"
  | unit => "unit"
  | toQueue _ => "to_queue"
  | toEventBus _ _ _ => "to_event_bus"

/-- Whether a step delivers the result. -/
def isSink : Step → Bool
  | toQueue _ => true
  | toEventBus _ _ _ => true
  | _ => false

end Step

/-- A pipeline as it is declared. -/
structure Manifest where
  version : String
  name : String
  /-- The addresses of the event buses. -/
  eventBuses : Registry String := {}
  /-- The addresses of the queues. -/
  queues : Registry String := {}
  functions : Registry FunctionDecl := {}
  /-- The queue for the input of failed calls. -/
  deadLetterQueue : Option String := none
  steps : List Step := []
  deriving Repr

namespace Manifest

/-- The version of manifests that this library reads. -/
def supportedVersion : String := "1.0"

/-- A declared queue. -/
def queue? (m : Manifest) (id : String) : Option Resource :=
  (m.queues.get? id).map fun uri => ⟨id, uri⟩

/-- A declared event bus. -/
def eventBus? (m : Manifest) (id : String) : Option Resource :=
  (m.eventBuses.get? id).map fun uri => ⟨id, uri⟩

/-- The queue for the input of failed calls. -/
def deadLetter? (m : Manifest) : Option Resource :=
  m.deadLetterQueue.bind m.queue?

end Manifest

end EventFlow
