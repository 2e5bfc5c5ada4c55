import EventFlow.Machine.Builder

/-!
# The layout of a pipeline

A builder lays out states hook by hook, on a stack of open chains. The same states can be read off
the tree at once: a call becomes a state, a fan-out becomes a state **if a function is called in
it** and nothing otherwise, and the only thing that flows from one node to the next is the path
from which the next state reads. `layNodes` is that reading, by recursion on the tree alone – no
stack, no set of names, no refusal – and it is what everything about a compiled chain is proved
of.

Two more recursions go with it. `stateIds` gives the names of the states of a chain without laying
them out, which is what the name of a fan-out is made from; `Node.Inner` says which nodes may stand
in a fan-out at all: calls, and fan-outs that are empty of calls or opened by one.
-/

namespace EventFlow

/-! ### Where functions are called -/

mutual

/-- Whether a function is called in a node, at any depth. -/
def Node.hasCall : Node → Bool
  | .call _ => true
  | .fanOut nodes => haveCall nodes
  | _ => false

/-- Whether a function is called in a chain, at any depth. -/
def haveCall : List Node → Bool
  | [] => false
  | node :: nodes => node.hasCall || haveCall nodes

end

theorem haveCall_iff {nodes : List Node} : haveCall nodes ↔ ∃ node ∈ nodes, node.hasCall := by
  induction nodes with
  | nil => simp [haveCall]
  | cons node nodes ih => simp [haveCall, ih]

/-- The call that opens a chain: its first node in which a function is called, if that node is
itself a call. -/
def openingCall? (nodes : List Node) : Option Call :=
  match nodes.find? Node.hasCall with
  | some (.call c) => some c
  | _ => none

theorem openingCall?_eq_some_iff {nodes : List Node} {c : Call} :
    openingCall? nodes = some c ↔ nodes.find? Node.hasCall = some (.call c) := by
  unfold openingCall?
  rcases nodes.find? Node.hasCall with _ | (_ | _ | _ | _) <;> simp

/-- A chain with a call that is not opened by one is opened by a fan-out. -/
theorem find?_hasCall_of_openingCall?_eq_none {nodes : List Node} (hcall : haveCall nodes)
    (h : openingCall? nodes = none) :
    ∃ inner, nodes.find? Node.hasCall = some (.fanOut inner) := by
  rcases hfound : nodes.find? Node.hasCall with _ | node
  · obtain ⟨node, hmem, hnode⟩ := haveCall_iff.mp hcall
    exact absurd hnode (List.find?_eq_none.mp hfound node hmem)
  · have hnode : node.hasCall := List.find?_some hfound
    cases node with
    | source => simp [Node.hasCall] at hnode
    | call c => exact absurd (openingCall?_eq_some_iff.mpr hfound) (by simp [h])
    | fanOut inner => exact ⟨inner, rfl⟩
    | deliver => simp [Node.hasCall] at hnode

mutual

/-- **What may stand in a fan-out**: a call, or a fan-out of such nodes which is opened by a call
unless no function is called in it. -/
def Node.Inner : Node → Prop
  | .call _ => True
  | .fanOut nodes => InnerChain nodes ∧ (haveCall nodes → (openingCall? nodes).isSome)
  | _ => False

/-- A chain of nodes that may stand in a fan-out. -/
def InnerChain : List Node → Prop
  | [] => True
  | node :: nodes => node.Inner ∧ InnerChain nodes

end

mutual

/-- In a fan-out a node leaves no state exactly when no function is called in it. -/
theorem Node.Inner.isStateless_eq :
    ∀ {node : Node}, node.Inner → Machine.Builder.isStateless node = !node.hasCall
  | .call _, _ => rfl
  | .fanOut nodes, h => @InnerChain.areStateless_eq nodes h.1

theorem InnerChain.areStateless_eq :
    ∀ {nodes : List Node}, InnerChain nodes → Machine.Builder.areStateless nodes = !haveCall nodes
  | [], _ => rfl
  | node :: nodes, h => by
    have hnode := @Node.Inner.isStateless_eq node h.1
    have hnodes := @InnerChain.areStateless_eq nodes h.2
    simp only [Machine.Builder.areStateless, haveCall, hnode, hnodes, Bool.not_or]

end

/-- The first node of a fan-out that leaves a state is the first one in which a function is
called. -/
theorem InnerChain.find?_isStateless {nodes : List Node} (h : InnerChain nodes) :
    nodes.find? (!Machine.Builder.isStateless ·) = nodes.find? Node.hasCall := by
  induction nodes with
  | nil => rfl
  | cons node nodes ih =>
    have hnode : (!Machine.Builder.isStateless node) = node.hasCall := by
      rw [h.1.isStateless_eq, Bool.not_not]
    simp only [List.find?_cons, hnode, ih h.2]

namespace Machine

/-! ### Names of states -/

mutual

/-- The name of the state that a node leaves, if it leaves one. -/
def stateIdsOfNode : Node → List String
  | .source _ => []
  | .call c => [Naming.invoke c.function.id]
  | .fanOut nodes =>
    if haveCall nodes then [Naming.fanOut (String.join (stateIds nodes))] else []
  | .deliver _ => [Naming.sink]

/-- The names of the states that a chain leaves, those inside fan-outs not included. -/
def stateIds : List Node → List String
  | [] => []
  | node :: nodes => stateIdsOfNode node ++ stateIds nodes

end

/-- The name of the state of a fan-out. -/
def fanOutId (nodes : List Node) : String :=
  Naming.fanOut (String.join (stateIds nodes))

/-- In a fan-out a node leaves a state exactly when a function is called in it. -/
theorem stateIds_eq_nil_iff_of_inner {node : Node} (h : node.Inner) :
    stateIdsOfNode node = [] ↔ node.hasCall = false := by
  cases node with
  | source s => exact h.elim
  | call c => simp [stateIdsOfNode, Node.hasCall]
  | fanOut nodes => by_cases hcall : haveCall nodes <;> simp [stateIdsOfNode, Node.hasCall, hcall]
  | deliver d => exact h.elim

theorem stateIds_eq_nil_iff_of_innerChain {nodes : List Node} (h : InnerChain nodes) :
    stateIds nodes = [] ↔ haveCall nodes = false := by
  induction nodes with
  | nil => simp [stateIds, haveCall]
  | cons node nodes ih =>
    simp only [stateIds, haveCall, List.append_eq_nil_iff, Bool.or_eq_false_iff,
      stateIds_eq_nil_iff_of_inner h.1, ih h.2]

/-! ### The states of a chain -/

/-- The names of the states of a chain, one after the other. -/
def joinedIds (chain : Chain) : String :=
  String.join (chain.map (·.id))

@[simp] theorem joinedIds_nil : joinedIds [] = "" := String.join_nil

@[simp] theorem joinedIds_append (chain states : Chain) :
    joinedIds (chain ++ states) = joinedIds chain ++ joinedIds states := by
  simp [joinedIds, String.join_append]

@[simp] theorem joinedIds_singleton (state : State) : joinedIds [state] = state.id := by
  simp [joinedIds]

/-- Where the state after a node reads, if the state of the node itself reads at `read`: once a
function was called, its result. -/
def readAfter (read : Path) (node : Node) : Path :=
  if node.hasCall then .payload else read

/-- Where the state after some nodes reads. -/
def readAfterAll (read : Path) (nodes : List Node) : Path :=
  nodes.foldl readAfter read

/-- The state of a fan-out over the list at `read`. -/
def fanOutOver (read : Path) (nodes : List Node) (iterator : Chain) : State :=
  ⟨Naming.fanOut (joinedIds iterator), .root,
    .forEach read (((openingCall? nodes).map (·.concurrency)).getD 1) iterator, []⟩

/-- The state that delivers. -/
def sinkState (read : Path) (d : Delivery) : State :=
  ⟨Naming.sink, read, Builder.sinkKind d, []⟩

mutual

/-- The state that a node becomes, if it becomes one. -/
def layNode (options : Options) (read : Path) : Node → Chain
  | .source _ => []
  | .call c => [Builder.invokeState options read c.function]
  | .fanOut nodes =>
    if haveCall nodes then [fanOutOver read nodes (layNodes options .root nodes)] else []
  | .deliver d => [sinkState read d]

/-- **The layout of a chain** whose first state reads at `read`. -/
def layNodes (options : Options) (read : Path) : List Node → Chain
  | [] => []
  | node :: nodes => layNode options read node ++ layNodes options (readAfter read node) nodes

end

theorem layNodes_append (options : Options) (read : Path) (nodes nodes' : List Node) :
    layNodes options read (nodes ++ nodes') =
      layNodes options read nodes ++ layNodes options (readAfterAll read nodes) nodes' := by
  induction nodes generalizing read with
  | nil => rfl
  | cons node nodes ih =>
    rw [List.cons_append, layNodes, layNodes, ih, List.append_assoc]
    rfl

mutual

/-- The names of the states of a layout are read off the tree. -/
theorem map_id_layNode (options : Options) :
    ∀ (read : Path) (node : Node), (layNode options read node).map (·.id) = stateIdsOfNode node
  | _, .source _ => rfl
  | _, .call _ => rfl
  | _, .fanOut nodes => by
    have hnodes := map_id_layNodes options .root nodes
    by_cases hcall : haveCall nodes
    · simp [layNode, stateIdsOfNode, hcall, fanOutOver, joinedIds, hnodes]
    · simp [layNode, stateIdsOfNode, hcall]
  | _, .deliver _ => rfl

theorem map_id_layNodes (options : Options) :
    ∀ (read : Path) (nodes : List Node), (layNodes options read nodes).map (·.id) = stateIds nodes
  | _, [] => rfl
  | read, node :: nodes => by
    rw [layNodes, stateIds, List.map_append, map_id_layNode options read node,
      map_id_layNodes options _ nodes]

end

theorem joinedIds_layNodes (options : Options) (read : Path) (nodes : List Node) :
    joinedIds (layNodes options read nodes) = String.join (stateIds nodes) := by
  rw [joinedIds, map_id_layNodes]

/-- The name of the state of a fan-out is read off the tree. -/
theorem id_fanOutOver_layNodes (options : Options) (read read' : Path) (nodes : List Node) :
    (fanOutOver read nodes (layNodes options read' nodes)).id = fanOutId nodes := by
  rw [fanOutOver, joinedIds_layNodes, fanOutId]

theorem isEmpty_layNodes (options : Options) (read : Path) {nodes : List Node}
    (h : InnerChain nodes) : (layNodes options read nodes).isEmpty = !haveCall nodes := by
  rw [Bool.eq_iff_iff, List.isEmpty_iff, ← List.map_eq_nil_iff, map_id_layNodes,
    stateIds_eq_nil_iff_of_innerChain h, Bool.not_eq_true']

theorem layNodes_eq_nil_iff (options : Options) (read : Path) (nodes : List Node) :
    layNodes options read nodes = [] ↔ stateIds nodes = [] := by
  rw [← map_id_layNodes options read nodes, List.map_eq_nil_iff]

/-! ### What stands in a state -/

theorem reachableOfChain_append (chain states : List State) :
    reachableOfChain (chain ++ states) = reachableOfChain chain ++ reachableOfChain states := by
  induction chain with
  | nil => rfl
  | cons state chain ih =>
    rw [List.cons_append, reachableOfChain, reachableOfChain, ih, List.append_assoc]

theorem reachableOfChain_singleton (state : State) :
    reachableOfChain [state] = state.reachable := by
  rw [reachableOfChain, reachableOfChain, List.append_nil]

/-- The states of a call: its own, and the two that forward a failure. -/
theorem reachable_invokeState (options : Options) (read : Path) (function : Resource) :
    (Builder.invokeState options read function).reachable =
      Builder.invokeState options read function ::
        (options.deadLetter.map (Builder.catchBranch function)).toList.flatMap (·.states) := by
  rcases hqueue : options.deadLetter with _ | queue <;>
    simp [Builder.invokeState, hqueue, Builder.catchBranch, State.reachable, StateKind.reachable,
      reachableOfBranches, reachableOfChain]

theorem reachable_sinkState (read : Path) (d : Delivery) :
    (sinkState read d).reachable = [sinkState read d] := by
  obtain ⟨_ | _, typeName⟩ := d <;> rfl

/-- The states of a fan-out: its own, and those of its iterator. -/
theorem reachable_forEach (id : String) (input items : Path) (concurrency : Nat)
    (iterator : Chain) :
    State.reachable ⟨id, input, .forEach items concurrency iterator, []⟩ =
      ⟨id, input, .forEach items concurrency iterator, []⟩ :: reachableOfChain iterator := by
  simp [State.reachable, StateKind.reachable, reachableOfBranches]

end Machine

end EventFlow
