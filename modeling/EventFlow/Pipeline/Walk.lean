import EventFlow.Diagnostic
import EventFlow.Pipeline.Node

/-!
# Walking a pipeline

A walk goes through a pipeline depth first, from its source to its sink, and tells a visitor at
each node that it enters it and that it leaves it (`Hook`). It stops at the first hook that the
visitor refuses, and at the first node out of place: a source anywhere but at the very beginning, a
delivery anywhere but at the very end of the top-level chain.
-/

namespace EventFlow

/-- What a hook is about. -/
inductive Subject where
  | pipeline (nodes : List Node)
  | source (source : Source)
  | call (call : Call)
  | fanOut (nodes : List Node)
  | deliver (delivery : Delivery)
  deriving Repr, Inhabited

/-- A moment of a walk. -/
inductive Moment where
  | enter
  | leave
  deriving DecidableEq, Repr, Inhabited

/-- A moment of a walk at a subject, with the number of fan-outs around it. -/
structure Hook where
  moment : Moment
  depth : Nat
  subject : Subject
  deriving Repr, Inhabited

/-- A node out of place: its kind, its position in its chain and the fan-outs around it. -/
structure Misplaced where
  kind : NodeKind
  index : Nat
  depth : Nat
  deriving DecidableEq, Repr

/-- What is told about a node out of place. -/
def Misplaced.diagnostic (m : Misplaced) : Diagnostic :=
  { category := .protocol
    code := "PIPE-PROTO-001"
    message := "unexpected " ++ m.kind.label ++ " node at position " ++ toString m.index
      ++ " of nesting level " ++ toString m.depth
    context := [("node", m.kind.label)] }

/-- A visitor with a state: what it does at a hook, which it may refuse. -/
abbrev Visitor (ε σ : Type) := Hook → ExceptT ε (StateM σ) Unit

section Walk

variable {ε σ : Type} (misplaced : Misplaced → ε) (visit : Visitor ε σ)

/-- Enters and leaves something that holds no nodes. -/
def visitLeaf (depth : Nat) (subject : Subject) : ExceptT ε (StateM σ) Unit := do
  visit ⟨.enter, depth, subject⟩
  visit ⟨.leave, depth, subject⟩

mutual

/-- Walks a node, given the fan-outs around it, its position and whether it is the last one. -/
def walkNode (depth index : Nat) (isLast : Bool) : Node → ExceptT ε (StateM σ) Unit
  | .source s =>
    if depth = 0 ∧ index = 0 then visitLeaf visit depth (.source s)
    else throw (misplaced ⟨.source, index, depth⟩)
  | .call c => visitLeaf visit depth (.call c)
  | .fanOut nodes => do
    visit ⟨.enter, depth, .fanOut nodes⟩
    walkNodes (depth + 1) 0 nodes
    visit ⟨.leave, depth, .fanOut nodes⟩
  | .deliver d =>
    if depth = 0 ∧ isLast then visitLeaf visit depth (.deliver d)
    else throw (misplaced ⟨.deliver, index, depth⟩)

/-- Walks the nodes of a chain from a position on. -/
def walkNodes (depth index : Nat) : List Node → ExceptT ε (StateM σ) Unit
  | [] => pure ()
  | node :: nodes => do
    walkNode depth index nodes.isEmpty node
    walkNodes depth (index + 1) nodes

end

/-- Walks a pipeline. -/
def walk (nodes : Pipeline) : ExceptT ε (StateM σ) Unit := do
  visit ⟨.enter, 0, .pipeline nodes⟩
  walkNodes misplaced visit 0 0 nodes
  visit ⟨.leave, 0, .pipeline nodes⟩

end Walk

end EventFlow
