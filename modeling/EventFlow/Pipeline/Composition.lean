import EventFlow.Diagnostic
import EventFlow.Pipeline.Node

/-!
# Compositions

A pipeline is composed from its source by operations, each applied to what came before: a function
is joined on or lifted over a list, a list is opened element by element (`wrap`) or collected again
(`unit`), and the result is delivered. Lifting and wrapping open a fan-out, `unit` closes the
innermost one and a delivery closes all of them. `Composition.lower` turns the operations into the
nodes of a pipeline.
-/

namespace EventFlow

/-- An operation that extends a composition. -/
inductive Operation where
  | join (call : Call)
  | lift (call : Call)
  | wrap
  | unit
  | deliver (delivery : Delivery)
  deriving DecidableEq, Repr, Inhabited

/-- A source and the operations applied to it, in order. -/
structure Composition where
  source : Source
  operations : List Operation := []
  deriving DecidableEq, Repr, Inhabited

/-- Why a composition is no pipeline. -/
inductive CompositionError where
  | unitOutsideFanOut
  | noSink
  deriving DecidableEq, Repr

/-- What is told about a composition that is no pipeline. -/
def CompositionError.diagnostic : CompositionError → Diagnostic
  | unitOutsideFanOut =>
    { category := .composition
      code := "PIPE-COMP-002"
      message := "unit applied outside of a fan-out context"
      hints := ["use unit only after lift or wrap"] }
  | noSink =>
    { category := .composition
      code := "PIPE-COMP-003"
      message := "pipeline has no terminal sink"
      hints := ["finish the pipeline with to_queue or to_event_bus"] }

/-- The nodes composed so far: those of the innermost open fan-out, then those of the fan-outs
around it, the top-level chain last. -/
structure Levels where
  inner : List Node := []
  outer : List (List Node) := []

namespace Levels

/-- Adds a node at the innermost level. -/
def push (node : Node) (l : Levels) : Levels :=
  { l with inner := l.inner ++ [node] }

/-- Opens a fan-out with some nodes. -/
def openWith (nodes : List Node) (l : Levels) : Levels :=
  { inner := nodes, outer := l.inner :: l.outer }

/-- Closes the innermost fan-out, if one is open. -/
def close? (l : Levels) : Option Levels :=
  match l.outer with
  | [] => none
  | chain :: outer => some { inner := chain ++ [.fanOut l.inner], outer }

/-- The top-level chain after all fan-outs are closed. -/
def closeAll (l : Levels) : List Node :=
  l.outer.foldl (fun nodes chain => chain ++ [.fanOut nodes]) l.inner

/-- The nodes after an operation. -/
def apply (l : Levels) : Operation → Except CompositionError Levels
  | .join call => .ok (l.push (.call call))
  | .lift call => .ok (l.openWith [.call call])
  | .wrap => .ok (l.openWith [])
  | .unit =>
    match l.close? with
    | some l => .ok l
    | none => .error .unitOutsideFanOut
  | .deliver d => .ok { inner := l.closeAll ++ [.deliver d] }

/-- The finished pipeline: no fan-out is open, and a delivery stands last. -/
def finish (l : Levels) : Except CompositionError Pipeline :=
  match l.outer, l.inner.getLast? with
  | [], some (.deliver _) => .ok l.inner
  | _, _ => .error .noSink

end Levels

namespace Composition

/-- Extends a composition by an operation. -/
def extend (c : Composition) (op : Operation) : Composition :=
  { c with operations := c.operations ++ [op] }

/-- The pipeline of a composition. -/
def lower (c : Composition) : Except CompositionError Pipeline := do
  let levels ← c.operations.foldlM Levels.apply { inner := [.source c.source] }
  levels.finish

end Composition

end EventFlow
