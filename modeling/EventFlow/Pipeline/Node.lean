/-!
# Pipelines

A pipeline reads events from a bus, applies functions, fans out over lists and delivers what comes
out to a queue or a bus. It is a list of nodes in the order in which they run; a fan-out holds the
nodes that run for each element of a list.

The nodes may stand in any order here. Which orders make sense is said where pipelines are walked
(`EventFlow.Pipeline.Walk`) and compiled.
-/

namespace EventFlow

/-- An event bus, a queue or a function outside the program: a name and the address under which it
is deployed. -/
structure Resource where
  id : String
  uri : String
  deriving DecidableEq, Repr, Inhabited

/-- Where events come from, and which. -/
structure Source where
  bus : Resource
  /-- The categories of events that start the pipeline. -/
  categories : List String
  /-- The type of what an event carries. -/
  typeName : String
  deriving DecidableEq, Repr, Inhabited

/-- A function with the number of elements it may run on at the same time when it opens a
fan-out. -/
structure Call where
  function : Resource
  concurrency : Nat := 1
  deriving DecidableEq, Repr, Inhabited

/-- Where the result of a pipeline goes. -/
inductive Sink where
  | queue (queue : Resource)
  | eventBus (bus : Resource) (source : String) (categories : List String)
  deriving DecidableEq, Repr, Inhabited

/-- The end of a pipeline. -/
structure Delivery where
  sink : Sink
  /-- The type of what is delivered. -/
  typeName : String
  deriving DecidableEq, Repr, Inhabited

/-- A node of a pipeline. -/
inductive Node where
  | source (source : Source)
  | call (call : Call)
  | fanOut (nodes : List Node)
  | deliver (delivery : Delivery)
  deriving Repr, Inhabited

/-- A pipeline: its nodes in order. -/
abbrev Pipeline := List Node

/-- The kinds of nodes. -/
inductive NodeKind where
  | source
  | call
  | fanOut
  | deliver
  deriving DecidableEq, Repr, Inhabited

/-- The name of a kind of node. -/
def NodeKind.label : NodeKind → String
  | source => "From"
  | call => "Map"
  | fanOut => "Seq"
  | deliver => "Yield"

/-- The kind of a node. -/
def Node.kind : Node → NodeKind
  | source _ => .source
  | call _ => .call
  | fanOut _ => .fanOut
  | deliver _ => .deliver

end EventFlow
