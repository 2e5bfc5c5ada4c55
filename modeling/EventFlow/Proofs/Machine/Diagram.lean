import EventFlow.Machine.Diagram

/-!
# What stands in a diagram

A diagram is made by adding nodes and edges to what is already there, and the numbers of the nodes
come from how many there are. Here the same is said without the diagram that is added to
(`addChain_eq`): the nodes of a chain are its states, in the order in which states are listed, and
its edges are those of `edgesOfChain`, which counts for itself. So nothing that is added later
changes a node or an edge.
-/

namespace EventFlow.Machine

/-- The node of a state. -/
def State.node (state : State) : DiagramNode :=
  ⟨state.id, state.kind.name⟩

namespace Diagram

/-- The edge that leads to a chain whose states are numbered from `first` on, if it has any. -/
def edgeTo (source : Nat) (chain : Chain) (first : Nat) (kind : EdgeKind) : List Edge :=
  if chain.isEmpty then [] else [⟨source, first, kind⟩]

mutual

/-- The edges of what a state runs, its states numbered from `first` on. -/
def edgesOfKind (owner first : Nat) : StateKind → List Edge
  | .forEach _ _ iterator => edgesOfChain none first iterator ++ edgeTo owner iterator first .each
  | _ => []

/-- The edges of the branches of a state, their states numbered from `first` on. -/
def edgesOfBranches (owner first : Nat) : List CatchBranch → List Edge
  | [] => []
  | ⟨_, _, states⟩ :: branches =>
    edgesOfChain none first states ++ edgeTo owner states first .onError
      ++ edgesOfBranches owner (first + (reachableOfChain states).length) branches

/-- **The edges of a chain**, its states and those inside them numbered from `first` on; the edge
from the state before it comes first. -/
def edgesOfChain (previous : Option Nat) (first : Nat) : List State → List Edge
  | [] => []
  | ⟨_, _, kind, catches⟩ :: states =>
    (previous.map (⟨·, first, .next⟩)).toList
      ++ edgesOfKind first (first + 1) kind
      ++ edgesOfBranches first (first + 1 + kind.reachable.length) catches
      ++ edgesOfChain (some first)
        (first + 1 + kind.reachable.length + (reachableOfBranches catches).length) states

end

theorem addEdgeTo_eq (source : Nat) (chain : Chain) (first : Nat) (kind : EdgeKind) (g : Diagram) :
    g.addEdgeTo source chain first kind =
      ⟨g.nodes, g.edges ++ edgeTo source chain first kind⟩ := by
  unfold addEdgeTo edgeTo
  split
  · rw [List.append_nil]
  · rfl

theorem addState_eq (previous : Option Nat) (id : String) (input : Path) (kind : StateKind)
    (catches : List CatchBranch) (g : Diagram) :
    addState previous ⟨id, input, kind, catches⟩ g =
      addBranches g.nodes.length catches (addIterator g.nodes.length kind
        ⟨g.nodes ++ [⟨id, kind.name⟩],
          g.edges ++ (previous.map (⟨·, g.nodes.length, .next⟩)).toList⟩) := by
  rcases previous with _ | previous <;> simp [addState, addNode, addEdge]

mutual

theorem addIterator_eq :
    ∀ (owner : Nat) (kind : StateKind) (g : Diagram), addIterator owner kind g =
      ⟨g.nodes ++ kind.reachable.map State.node, g.edges ++ edgesOfKind owner g.nodes.length kind⟩
  | owner, .forEach _ _ iterator, g => by
    rw [addIterator, addEdgeTo_eq, addChain_eq none iterator g, edgesOfKind, List.append_assoc]
    rfl
  | _, .invoke _, g => by simp [addIterator, StateKind.reachable, edgesOfKind]
  | _, .sendToQueue _, g => by simp [addIterator, StateKind.reachable, edgesOfKind]
  | _, .sendToEventBus _ _ _, g => by simp [addIterator, StateKind.reachable, edgesOfKind]
  | _, .catchAndForward _, g => by simp [addIterator, StateKind.reachable, edgesOfKind]
  | _, .fail, g => by simp [addIterator, StateKind.reachable, edgesOfKind]

theorem addBranches_eq :
    ∀ (owner : Nat) (branches : List CatchBranch) (g : Diagram), addBranches owner branches g =
      ⟨g.nodes ++ (reachableOfBranches branches).map State.node,
        g.edges ++ edgesOfBranches owner g.nodes.length branches⟩
  | _, [], g => by simp [addBranches, reachableOfBranches, edgesOfBranches]
  | owner, ⟨_, _, states⟩ :: branches, g => by
    rw [addBranches, addEdgeTo_eq, addChain_eq none states g, addBranches_eq owner branches]
    simp [reachableOfBranches, edgesOfBranches]

/-- **What a chain adds to a diagram**: its states, numbered on, and its edges. -/
theorem addChain_eq :
    ∀ (previous : Option Nat) (chain : List State) (g : Diagram), addChain previous chain g =
      ⟨g.nodes ++ (reachableOfChain chain).map State.node,
        g.edges ++ edgesOfChain previous g.nodes.length chain⟩
  | _, [], g => by simp [addChain, reachableOfChain, edgesOfChain]
  | previous, ⟨id, input, kind, catches⟩ :: states, g => by
    -- the number of each part is how many nodes are there before it
    rw [addChain, addChain_eq _ states, addState_eq, addIterator_eq _ kind,
      addBranches_eq _ catches]
    simp [reachableOfChain, State.reachable, edgesOfChain, State.node, Nat.add_assoc,
      Nat.add_comm 1]

end

/-- **The diagram of a compiled pipeline**: the rule is number zero, the states follow. -/
theorem ofCompiled_eq (c : Compiled) :
    ofCompiled c = ⟨⟨c.rule.name, "TriggerRule"⟩ :: c.machine.chain.allStates.map State.node,
      edgesOfChain none 1 c.machine.chain ++ edgeTo 0 c.machine.chain 1 .trigger⟩ := by
  rw [ofCompiled, addEdgeTo_eq, addChain_eq]
  rfl

theorem edges_ofCompiled (c : Compiled) :
    (ofCompiled c).edges =
      edgesOfChain none 1 c.machine.chain ++ edgeTo 0 c.machine.chain 1 .trigger := by
  rw [ofCompiled_eq]

end Diagram

end EventFlow.Machine
