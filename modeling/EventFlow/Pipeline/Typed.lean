import EventFlow.Pipeline.Composition
import EventFlow.Pipeline.TypeName
import EventFlow.Text.Quoted

/-!
# Typed compositions

A composition whose operations fit by their types: `Flow a b` takes events that carry an `a` to
values of type `b`. Functions carry the types of their argument and result, so an operation that
does not fit cannot be written down. Every constructor leaves the flow it extends as it was.

A delivery gives a flow to the type without values, which may be extended like any other; lowering
decides whether the whole is a pipeline.
-/

namespace EventFlow

/-- The types that flow through a pipeline. -/
inductive DataType where
  /-- A type given by its full name. -/
  | named (path : String)
  | list (element : DataType)
  /-- The type without values, which comes out of a delivery. -/
  | void
  deriving DecidableEq, Repr, Inhabited

/-- The short name of a type. -/
def DataType.name : DataType → String
  | named path => shorten path
  | list element => "Vec<" ++ element.name ++ ">"
  | void => "Void"

/-- A function from one type to another. -/
structure Function (a b : DataType) where
  handle : Resource
  deriving DecidableEq, Repr

namespace Function

/-- A function with the number of elements it may run on at the same time. -/
def call {a b : DataType} (f : Function a b) (concurrency : Nat) : Call :=
  ⟨f.handle, concurrency⟩

/-- A line about a function. -/
def describe {a b : DataType} (f : Function a b) : String :=
  "Function \x7b handle: FunctionRef \x7b id: " ++ Text.quoted f.handle.id ++ ", uri: "
    ++ Text.quoted f.handle.uri ++ " \x7d \x7d"

end Function

/-- A composition from one type to another. -/
structure Flow (a b : DataType) where
  composition : Composition
  deriving DecidableEq, Repr

namespace Flow

variable {a b c : DataType}

/-- Reads events of a type from a bus. -/
def source (a : DataType) (bus : Resource) (categories : List String) : Flow a a :=
  ⟨{ source := { bus, categories, typeName := a.name } }⟩

/-- Extends a flow by an operation that leads to a type. -/
def extend (m : Flow a b) (op : Operation) (c : DataType) : Flow a c :=
  ⟨m.composition.extend op⟩

/-- Applies a function to the result. -/
def join (f : Function b c) (m : Flow a b) : Flow a c :=
  m.extend (.join (f.call 1)) c

/-- Applies a function to each element of the result, to so many at the same time. -/
def liftBounded (n : Nat) (f : Function b c) (m : Flow a (.list b)) : Flow a c :=
  m.extend (.lift (f.call n)) c

/-- Applies a function to each element of the result, one at a time. -/
def lift (f : Function b c) (m : Flow a (.list b)) : Flow a c :=
  liftBounded 1 f m

/-- Goes on with each element of the result. -/
def wrap (m : Flow a (.list b)) : Flow a b :=
  m.extend .wrap b

/-- Collects the results of the innermost fan-out in a list. -/
def unit (m : Flow a b) : Flow a (.list b) :=
  m.extend .unit (.list b)

/-- Delivers the result to a queue. -/
def toQueue (queue : Resource) (m : Flow a b) : Flow a .void :=
  m.extend (.deliver ⟨.queue queue, b.name⟩) .void

/-- Publishes the result on a bus. -/
def toEventBus (source : String) (bus : Resource) (categories : List String) (m : Flow a b) :
    Flow a .void :=
  m.extend (.deliver ⟨.eventBus bus source categories, b.name⟩) .void

/-- The pipeline of a flow. -/
def lower (m : Flow a b) : Except CompositionError Pipeline :=
  m.composition.lower

/-- A line about a flow. -/
def describe (_ : Flow a b) : String :=
  "Morphism \x7b input: " ++ Text.quoted a.name ++ ", output: " ++ Text.quoted b.name ++ " \x7d"

end Flow

end EventFlow
