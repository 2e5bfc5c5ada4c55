import EventFlow.Proofs.Machine.Diagram
import Mathlib.Data.List.Nodup
import Mathlib.Logic.Relation

/-!
# A diagram is a tree

The diagram of a compiled pipeline draws each state once and leads to it once, whatever the machine
looks like: names may repeat, and chains, iterators and branches may be empty. The edges are drawn
in an order of their own, since the edge to a chain comes after everything in the chain. Here they
are put **in the order of the states they lead to** (`arrivalsOfChain`), which is a permutation
(`perm_edgesOfChain`), and everything is read off the new order:

* the edge at a place of the list leads to the state at that place of the listing of all states, so
  there is one for each state and none for the rule;
* its label tells where the state stands in its chain, and what the chain is for (`Position`);
* it comes from an earlier node, so no path returns to where it began, and going back from a state
  ends at the rule.
-/

namespace EventFlow.Machine

/-- **Where a state stands**: at the beginning of the machine, of an iterator or of a branch, or
later in one of these chains. -/
inductive Position where
  | firstOfMachine
  | later
  | firstOfIterator
  | firstOfBranch
  deriving DecidableEq, Repr

/-- The label of the edge that leads to a state. -/
def Position.label : Position → String
  | firstOfMachine => "trigger"
  | later => "next"
  | firstOfIterator => "each"
  | firstOfBranch => "catch"

/-- The edge that leads to a state. -/
def Position.edge : Position → EdgeKind
  | firstOfMachine => .trigger
  | later => .next
  | firstOfIterator => .each
  | firstOfBranch => .onError

theorem Position.label_edge (position : Position) : position.edge.label = position.label := by
  cases position <;> rfl

mutual

/-- A state that stands somewhere, and the states in it with their positions. -/
def positionsOfState (position : Position) : State → List (State × Position)
  | ⟨id, input, kind, catches⟩ =>
    (⟨id, input, kind, catches⟩, position) :: (positionsOfKind kind ++ positionsOfBranches catches)

/-- The states of an iterator with their positions. -/
def positionsOfKind : StateKind → List (State × Position)
  | .forEach _ _ iterator => positionsOfChain .firstOfIterator iterator
  | _ => []

/-- The states of some branches with their positions. -/
def positionsOfBranches : List CatchBranch → List (State × Position)
  | [] => []
  | ⟨_, _, states⟩ :: branches =>
    positionsOfChain .firstOfBranch states ++ positionsOfBranches branches

/-- **The states of a chain with their positions**, depth first, given the position of the first
one. -/
def positionsOfChain (first : Position) : List State → List (State × Position)
  | [] => []
  | state :: states => positionsOfState first state ++ positionsOfChain .later states

end

mutual

theorem map_fst_positionsOfState :
    ∀ (position : Position) (state : State),
      (positionsOfState position state).map (·.1) = state.reachable
  | _, ⟨id, input, kind, catches⟩ => by
    rw [positionsOfState, State.reachable, List.map_cons, List.map_append,
      map_fst_positionsOfKind kind, map_fst_positionsOfBranches catches]

theorem map_fst_positionsOfKind :
    ∀ kind : StateKind, (positionsOfKind kind).map (·.1) = kind.reachable
  | .forEach _ _ iterator => map_fst_positionsOfChain _ iterator
  | .invoke _ => rfl
  | .sendToQueue _ => rfl
  | .sendToEventBus _ _ _ => rfl
  | .catchAndForward _ => rfl
  | .fail => rfl

theorem map_fst_positionsOfBranches :
    ∀ branches : List CatchBranch,
      (positionsOfBranches branches).map (·.1) = reachableOfBranches branches
  | [] => rfl
  | ⟨_, _, states⟩ :: branches => by
    rw [positionsOfBranches, reachableOfBranches, List.map_append,
      map_fst_positionsOfChain _ states, map_fst_positionsOfBranches branches]

/-- The states with their positions are the states, in the same order. -/
theorem map_fst_positionsOfChain :
    ∀ (first : Position) (chain : List State),
      (positionsOfChain first chain).map (·.1) = reachableOfChain chain
  | _, [] => rfl
  | first, state :: states => by
    rw [positionsOfChain, reachableOfChain, List.map_append, map_fst_positionsOfState first state,
      map_fst_positionsOfChain _ states]

end

theorem length_positionsOfKind (kind : StateKind) :
    (positionsOfKind kind).length = kind.reachable.length := by
  rw [← map_fst_positionsOfKind, List.length_map]

theorem length_positionsOfBranches (branches : List CatchBranch) :
    (positionsOfBranches branches).length = (reachableOfBranches branches).length := by
  rw [← map_fst_positionsOfBranches, List.length_map]

theorem length_positionsOfChain (first : Position) (chain : Chain) :
    (positionsOfChain first chain).length = (reachableOfChain chain).length := by
  rw [← map_fst_positionsOfChain first, List.length_map]

namespace Diagram

/-! ### Edges in the order of their targets -/

mutual

/-- The edges of what a state runs, its states numbered from `first` on. -/
def arrivalsOfKind (owner first : Nat) : StateKind → List Edge
  | .forEach _ _ iterator => edgeTo owner iterator first .each ++ arrivalsOfChain first iterator
  | _ => []

/-- The edges of the branches of a state, their states numbered from `first` on. -/
def arrivalsOfBranches (owner first : Nat) : List CatchBranch → List Edge
  | [] => []
  | ⟨_, _, states⟩ :: branches =>
    edgeTo owner states first .onError ++ arrivalsOfChain first states
      ++ arrivalsOfBranches owner (first + (reachableOfChain states).length) branches

/-- **The edges inside a chain, in the order of the states they lead to**, the states numbered from
`first` on. The edge to the first state is not one of them. -/
def arrivalsOfChain (first : Nat) : List State → List Edge
  | [] => []
  | ⟨_, _, kind, catches⟩ :: states =>
    let next := first + 1 + kind.reachable.length + (reachableOfBranches catches).length
    arrivalsOfKind first (first + 1) kind
      ++ arrivalsOfBranches first (first + 1 + kind.reachable.length) catches
      ++ (edgeTo first states next .next ++ arrivalsOfChain next states)

end

theorem edgesOfChain_some (previous first : Nat) (chain : List State) :
    edgesOfChain (some previous) first chain =
      edgeTo previous chain first .next ++ edgesOfChain none first chain := by
  rcases chain with _ | ⟨⟨id, input, kind, catches⟩, states⟩ <;> simp [edgesOfChain, edgeTo]

mutual

theorem perm_edgesOfKind :
    ∀ (owner first : Nat) (kind : StateKind),
      (edgesOfKind owner first kind).Perm (arrivalsOfKind owner first kind)
  | owner, first, .forEach _ _ iterator => by
    rw [edgesOfKind, arrivalsOfKind]
    exact List.perm_append_comm.trans ((perm_edgesOfChain first iterator).append_left _)
  | _, _, .invoke _ => .refl _
  | _, _, .sendToQueue _ => .refl _
  | _, _, .sendToEventBus _ _ _ => .refl _
  | _, _, .catchAndForward _ => .refl _
  | _, _, .fail => .refl _

theorem perm_edgesOfBranches :
    ∀ (owner first : Nat) (branches : List CatchBranch),
      (edgesOfBranches owner first branches).Perm (arrivalsOfBranches owner first branches)
  | _, _, [] => .refl _
  | owner, first, ⟨_, _, states⟩ :: branches => by
    rw [edgesOfBranches, arrivalsOfBranches]
    have hstates := List.perm_append_comm.trans ((perm_edgesOfChain first states).append_left
      (edgeTo owner states first .onError))
    exact hstates.append (perm_edgesOfBranches owner _ branches)

/-- **The edges inside a chain, put in order.** -/
theorem perm_edgesOfChain :
    ∀ (first : Nat) (chain : List State),
      (edgesOfChain none first chain).Perm (arrivalsOfChain first chain)
  | _, [] => .refl _
  | first, ⟨_, _, kind, catches⟩ :: states => by
    have hlater := (perm_edgesOfChain
      (first + 1 + kind.reachable.length + (reachableOfBranches catches).length) states).append_left
        (edgeTo first states
          (first + 1 + kind.reachable.length + (reachableOfBranches catches).length) .next)
    rw [edgesOfChain, arrivalsOfChain, edgesOfChain_some]
    exact ((perm_edgesOfKind first _ kind).append (perm_edgesOfBranches first _ catches)).append
      hlater

end

/-! ### What an edge leads to -/

/-- The edges that lead to states in some positions, numbered from `first` on: their kinds, and the
numbers they lead to. -/
def expected (positions : List (State × Position)) (first : Nat) : List (EdgeKind × Nat) :=
  (positions.map (·.2.edge)).zipIdx first

theorem expected_append (positions positions' : List (State × Position)) (first : Nat) :
    expected (positions ++ positions') first =
      expected positions first ++ expected positions' (first + positions.length) := by
  simp [expected, List.zipIdx_append]

theorem expected_cons (state : State) (position : Position) (positions : List (State × Position))
    (first : Nat) :
    expected ((state, position) :: positions) first =
      (position.edge, first) :: expected positions (first + 1) := by
  simp [expected, List.zipIdx_cons]

/-- The kinds of some edges, and the numbers they lead to. -/
def arrivals (edges : List Edge) : List (EdgeKind × Nat) :=
  edges.map fun e => (e.kind, e.target)

theorem arrivals_append (edges edges' : List Edge) :
    arrivals (edges ++ edges') = arrivals edges ++ arrivals edges' :=
  List.map_append

mutual

theorem arrivals_arrivalsOfKind :
    ∀ (owner first : Nat) (kind : StateKind),
      arrivals (arrivalsOfKind owner first kind) = expected (positionsOfKind kind) first
  | owner, first, .forEach _ _ iterator =>
    arrivals_arrivalsOfChain owner first .firstOfIterator iterator
  | _, _, .invoke _ => rfl
  | _, _, .sendToQueue _ => rfl
  | _, _, .sendToEventBus _ _ _ => rfl
  | _, _, .catchAndForward _ => rfl
  | _, _, .fail => rfl

theorem arrivals_arrivalsOfBranches :
    ∀ (owner first : Nat) (branches : List CatchBranch),
      arrivals (arrivalsOfBranches owner first branches) =
        expected (positionsOfBranches branches) first
  | _, _, [] => rfl
  | owner, first, ⟨_, _, states⟩ :: branches => by
    have hstates := arrivals_arrivalsOfChain owner first .firstOfBranch states
    have hbranches := arrivals_arrivalsOfBranches owner (first + (reachableOfChain states).length)
      branches
    rw [arrivalsOfBranches, positionsOfBranches, arrivals_append, expected_append,
      length_positionsOfChain, ← hstates, ← hbranches]
    rfl

/-- **The edges in order lead to the states in order**, each with the kind for the position of its
state. -/
theorem arrivals_arrivalsOfChain :
    ∀ (source first : Nat) (position : Position) (chain : List State),
      arrivals (edgeTo source chain first position.edge ++ arrivalsOfChain first chain) =
        expected (positionsOfChain position chain) first
  | _, _, _, [] => rfl
  | source, first, position, ⟨_, _, kind, catches⟩ :: states => by
    have hkind := arrivals_arrivalsOfKind first (first + 1) kind
    have hbranches :=
      arrivals_arrivalsOfBranches first (first + 1 + kind.reachable.length) catches
    have hstates := arrivals_arrivalsOfChain first
      (first + 1 + kind.reachable.length + (reachableOfBranches catches).length) .later states
    rw [positionsOfChain, positionsOfState, List.cons_append, expected_cons, expected_append,
      expected_append, List.length_append, length_positionsOfKind, length_positionsOfBranches,
      ← Nat.add_assoc, ← hkind, ← hbranches, ← hstates, ← arrivals_append, ← arrivals_append]
    rfl

end

/-! ### Where an edge comes from -/

/-- Edges that come from an earlier number each. -/
def Ascend (edges : List Edge) : Prop :=
  ∀ e ∈ edges, e.source < e.target

theorem ascend_append {edges edges' : List Edge} (h : Ascend edges) (h' : Ascend edges') :
    Ascend (edges ++ edges') :=
  List.forall_mem_append.mpr ⟨h, h'⟩

theorem ascend_edgeTo {source first : Nat} (h : source < first) (chain : Chain) (kind : EdgeKind) :
    Ascend (edgeTo source chain first kind) := by
  intro e he
  unfold edgeTo at he
  split at he
  · exact absurd he List.not_mem_nil
  · rw [List.mem_singleton.mp he]
    exact h

mutual

theorem ascend_arrivalsOfKind :
    ∀ {owner first : Nat} (kind : StateKind), owner < first →
      Ascend (arrivalsOfKind owner first kind)
  | _, _, .forEach _ _ iterator, h =>
    ascend_append (ascend_edgeTo h iterator .each) (ascend_arrivalsOfChain _ iterator)
  | _, _, .invoke _, _ => fun _ he => absurd he List.not_mem_nil
  | _, _, .sendToQueue _, _ => fun _ he => absurd he List.not_mem_nil
  | _, _, .sendToEventBus _ _ _, _ => fun _ he => absurd he List.not_mem_nil
  | _, _, .catchAndForward _, _ => fun _ he => absurd he List.not_mem_nil
  | _, _, .fail, _ => fun _ he => absurd he List.not_mem_nil

theorem ascend_arrivalsOfBranches :
    ∀ {owner first : Nat} (branches : List CatchBranch), owner < first →
      Ascend (arrivalsOfBranches owner first branches)
  | _, _, [], _ => fun _ he => absurd he List.not_mem_nil
  | owner, first, ⟨_, _, states⟩ :: branches, h =>
    ascend_append
      (ascend_append (ascend_edgeTo h states .onError) (ascend_arrivalsOfChain _ states))
      (ascend_arrivalsOfBranches branches (by omega))

/-- **Every edge inside a chain comes from an earlier state.** -/
theorem ascend_arrivalsOfChain :
    ∀ (first : Nat) (chain : List State), Ascend (arrivalsOfChain first chain)
  | _, [] => fun _ he => absurd he List.not_mem_nil
  | first, ⟨_, _, kind, catches⟩ :: states =>
    ascend_append
      (ascend_append (ascend_arrivalsOfKind kind (by omega))
        (ascend_arrivalsOfBranches catches (by omega)))
      (ascend_append (ascend_edgeTo (by omega) states .next) (ascend_arrivalsOfChain _ states))

end

/-! ### The whole diagram -/

/-- The edges that lead to a number. -/
def incoming (n : Nat) (g : Diagram) : List Edge :=
  g.edges.filter (·.target == n)

/-- One node leads to another. -/
def Leads (g : Diagram) (m n : Nat) : Prop :=
  ∃ e ∈ g.edges, e.source = m ∧ e.target = n

/-- The edges of a diagram in the order of the states they lead to. -/
def ordered (c : Compiled) : List Edge :=
  edgeTo 0 c.machine.chain 1 .trigger ++ arrivalsOfChain 1 c.machine.chain

variable (c : Compiled)

theorem perm_ordered : (ofCompiled c).edges.Perm (ordered c) := by
  rw [edges_ofCompiled]
  exact List.perm_append_comm.trans ((perm_edgesOfChain 1 c.machine.chain).append_left _)

theorem arrivals_ordered :
    arrivals (ordered c) = expected (positionsOfChain .firstOfMachine c.machine.chain) 1 :=
  arrivals_arrivalsOfChain 0 1 .firstOfMachine c.machine.chain

/-- The edges in order lead to the numbers from one on. -/
theorem map_target_ordered :
    (ordered c).map (·.target) = List.range' 1 c.machine.chain.allStates.length := by
  have hsnd := congrArg (List.map (·.2)) (arrivals_ordered c)
  rw [arrivals, List.map_map, expected, List.zipIdx_map_snd, List.length_map,
    length_positionsOfChain] at hsnd
  exact hsnd

theorem ascend_ordered : Ascend (ordered c) :=
  ascend_append (ascend_edgeTo Nat.zero_lt_one _ _) (ascend_arrivalsOfChain 1 _)

/-- An edge that leads to a number is the only one that does. -/
theorem incoming_eq_singleton {e : Edge} (h : e ∈ ordered c) :
    (ofCompiled c).incoming e.target = [e] := by
  have hperm := (perm_ordered c).filter (·.target == e.target)
  have hnodup : ((ordered c).map (·.target)).Nodup := by
    rw [map_target_ordered]
    exact List.nodup_range'
  -- the targets before and after the edge are others
  obtain ⟨before, after, hsplit⟩ := List.append_of_mem h
  rw [hsplit, List.map_append, List.map_cons, List.nodup_middle, List.nodup_cons,
    ← List.map_append] at hnodup
  have hother : ∀ e' ∈ before ++ after, ¬(e'.target == e.target) = true := by
    intro e' he' heq
    exact hnodup.1 (List.mem_map.mpr ⟨e', he', beq_iff_eq.mp heq⟩)
  have hbefore := List.filter_eq_nil_iff.mpr fun e' he' => hother e' (List.mem_append_left _ he')
  have hafter := List.filter_eq_nil_iff.mpr fun e' he' => hother e' (List.mem_append_right _ he')
  rw [hsplit, List.filter_append, List.filter_cons_of_pos (by simp), hbefore, hafter] at hperm
  exact List.perm_singleton.mp hperm

/-- **The edge to the state at a place of the listing.** -/
theorem exists_incoming_eq {c : Compiled} {i : Nat} {state : State} {position : Position}
    (h : (positionsOfChain .firstOfMachine c.machine.chain)[i]? = some (state, position)) :
    ∃ e, (ofCompiled c).incoming (i + 1) = [e] ∧ e.source < i + 1 ∧
      e.kind.label = position.label := by
  have harrival : (arrivals (ordered c))[i]? = some (position.edge, 1 + i) := by
    rw [arrivals_ordered, expected, List.getElem?_zipIdx, List.getElem?_map, h]
    rfl
  rw [arrivals, List.getElem?_map, Option.map_eq_some_iff] at harrival
  obtain ⟨e, he, heq⟩ := harrival
  obtain ⟨hkind, htarget⟩ := Prod.mk.inj heq
  rw [Nat.add_comm] at htarget
  have hmem : e ∈ ordered c := List.mem_of_getElem? he
  refine ⟨e, htarget ▸ incoming_eq_singleton c hmem, htarget ▸ ascend_ordered c e hmem, ?_⟩
  rw [hkind, position.label_edge]

/-- Nothing leads to the rule. -/
theorem incoming_zero : (ofCompiled c).incoming 0 = [] := by
  rw [incoming, List.filter_eq_nil_iff]
  intro e he hzero
  have htarget : e.target ∈ (ordered c).map (·.target) :=
    List.mem_map_of_mem ((perm_ordered c).mem_iff.mp he)
  rw [map_target_ordered, List.mem_range'_1, beq_iff_eq.mp hzero] at htarget
  exact absurd htarget.1 (by omega)

variable {c}

theorem lt_of_leads {m n : Nat} (h : (ofCompiled c).Leads m n) : m < n := by
  obtain ⟨e, he, rfl, rfl⟩ := h
  exact ascend_ordered c e ((perm_ordered c).mem_iff.mp he)

/-- Along edges the numbers grow. -/
theorem lt_of_transGen_leads {m n : Nat} (h : Relation.TransGen (ofCompiled c).Leads m n) :
    m < n := by
  induction h with
  | single hstep => exact lt_of_leads hstep
  | tail _ hstep ih => exact Nat.lt_trans ih (lt_of_leads hstep)

/-- **Going back from a node ends at the rule.** -/
theorem reflTransGen_leads {n : Nat} (h : n ≤ c.machine.chain.allStates.length) :
    Relation.ReflTransGen (ofCompiled c).Leads 0 n := by
  induction n using Nat.strongRecOn with | ind n ih => ?_
  rcases n with _ | i
  · exact .refl
  · have hlt : i < (positionsOfChain .firstOfMachine c.machine.chain).length := by
      rw [length_positionsOfChain]
      exact h
    obtain ⟨e, hincoming, hsource, -⟩ := exists_incoming_eq (List.getElem?_eq_getElem hlt)
    have hmem : e ∈ (ofCompiled c).incoming (i + 1) := hincoming ▸ List.mem_cons_self
    obtain ⟨hedge, htarget⟩ := List.mem_filter.mp hmem
    exact (ih e.source hsource (by omega)).tail ⟨e, hedge, rfl, beq_iff_eq.mp htarget⟩

/-- **The diagram of a compiled pipeline is a tree over all its states.** Its nodes are the rule and
the states in the order in which they are listed. Nothing leads to the rule; exactly one edge leads
to each state, from an earlier node, and its label tells where the state stands. So no path returns
to where it began, and there is a path from the rule to every node. -/
theorem ofCompiled_isTree (c : Compiled) :
    (ofCompiled c).nodes = ⟨c.rule.name, "TriggerRule"⟩ ::
        c.machine.chain.allStates.map (fun state => ⟨state.id, state.kind.name⟩) ∧
      (ofCompiled c).incoming 0 = [] ∧
      (positionsOfChain .firstOfMachine c.machine.chain).map (·.1) = c.machine.chain.allStates ∧
      (∀ i state position,
        (positionsOfChain .firstOfMachine c.machine.chain)[i]? = some (state, position) →
        ∃ e, (ofCompiled c).incoming (i + 1) = [e] ∧ e.source < i + 1 ∧
          e.kind.label = position.label) ∧
      (∀ n, ¬Relation.TransGen (ofCompiled c).Leads n n) ∧
      ∀ n < (ofCompiled c).nodes.length, Relation.ReflTransGen (ofCompiled c).Leads 0 n := by
  have hnodes : (ofCompiled c).nodes = ⟨c.rule.name, "TriggerRule"⟩ ::
      c.machine.chain.allStates.map State.node := by rw [ofCompiled_eq]
  refine ⟨hnodes, incoming_zero c, map_fst_positionsOfChain _ _,
    fun i state position h => exists_incoming_eq h,
    fun n hcycle => Nat.lt_irrefl n (lt_of_transGen_leads hcycle), fun n hn => ?_⟩
  rw [hnodes, List.length_cons, List.length_map] at hn
  exact reflTransGen_leads (Nat.le_of_lt_succ hn)

/-- A machine in which one name stands for three states, one of which runs nothing. -/
def repeatedNames : Compiled where
  machine := ⟨"machine", [
    ⟨"A", .root, .forEach .payload 1 [], [⟨[], .error, []⟩,
      ⟨[allErrors], .error, [⟨"B", .root, .catchAndForward ⟨"dead", "queue:dead"⟩, []⟩,
        ⟨"A", .root, .fail, []⟩]⟩]⟩,
    ⟨"A", .payload, .sendToQueue ⟨"reply", "queue:reply"⟩, []⟩]⟩
  rule := ⟨"A", ⟨"orders", "bus:orders"⟩, ["Order"], "machine"⟩

theorem repeatedNames_isTree :
    (positionsOfChain .firstOfMachine repeatedNames.machine.chain).map (·.2) =
        [.firstOfMachine, .firstOfBranch, .later, .later] ∧
      (ofCompiled repeatedNames).incoming 0 = [] ∧
      (∃ e, (ofCompiled repeatedNames).incoming 2 = [e] ∧ e.source < 2 ∧ e.kind.label = "catch") ∧
      Relation.ReflTransGen (ofCompiled repeatedNames).Leads 0 4 := by
  obtain ⟨-, hrule, -, hstates, -, hreach⟩ := ofCompiled_isTree repeatedNames
  exact ⟨rfl, hrule, hstates 1 _ .firstOfBranch rfl, hreach 4 (by decide)⟩

end Diagram

end EventFlow.Machine
