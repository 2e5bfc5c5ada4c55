import EventFlow.Proofs.Machine.Compile

/-!
# Where the states of a machine read

Data flows through a chain from state to state. The first state reads what the chain is started
with – the payload of the event in the top-level chain, one element of a list in an iterator – and
every later one reads the result of the state before it. That is `Threaded`, and it is proved by one
induction along the chain, whose invariant is the path that `layNodes` carries from node to node: a
node that leaves a state hands on the path of results, and a node that leaves none hands on what it
was given.

What stands inside the states is said of each state on its own (`Wired`) and proved of all of them
by recursion on the tree.
-/

namespace EventFlow.Machine

/-- **Where a state reads**: a fan-out reads the list that it runs over, any other state its
input. -/
def State.readPath (state : State) : Path :=
  match state.kind with
  | .forEach items _ _ => items
  | _ => state.input

/-! ### Along a chain -/

/-- **A threaded chain**: the first state reads at `first`, and every later one reads the result of
the one before it. -/
def Threaded (first : Path) (chain : Chain) : Prop :=
  ∀ (i : Nat) (state : State), chain[i]? = some state →
    state.readPath = if i = 0 then first else .payload

theorem threaded_nil (first : Path) : Threaded first [] := by
  intro i state h
  simp at h

theorem Threaded.cons {first : Path} {state : State} {states : Chain}
    (hstate : state.readPath = first) (hstates : Threaded .payload states) :
    Threaded first (state :: states) := by
  rintro (_ | i) other hother
  · obtain rfl : state = other := by simpa using hother
    rw [if_pos rfl, hstate]
  · rw [if_neg (Nat.succ_ne_zero i), hstates i other (by simpa using hother), ite_self]

theorem readPath_sinkState (read : Path) (d : Delivery) : (sinkState read d).readPath = read := by
  obtain ⟨_ | _, typeName⟩ := d <;> rfl

/-- In a fan-out a node leaves one state, which reads at the path it is given, or none. -/
theorem layNode_cases (options : Options) (read : Path) {node : Node} (h : node.Inner) :
    (∃ state, layNode options read node = [state] ∧ state.readPath = read ∧
        readAfter read node = .payload) ∨
      (layNode options read node = [] ∧ readAfter read node = read) := by
  cases node with
  | source => exact h.elim
  | call c => exact .inl ⟨_, rfl, rfl, rfl⟩
  | fanOut nodes =>
    by_cases hcall : haveCall nodes
    · exact .inl ⟨_, by rw [layNode, if_pos hcall], rfl, by simp [readAfter, Node.hasCall, hcall]⟩
    · exact .inr ⟨by rw [layNode, if_neg hcall], by simp [readAfter, Node.hasCall, hcall]⟩
  | deliver => exact h.elim

/-- **A layout is threaded from the path it starts with**, with a delivery at its end or without. -/
theorem threaded_layNodes (options : Options) (sink : Option Delivery) {body : List Node}
    (h : InnerChain body) (read : Path) :
    Threaded read (layNodes options read body
      ++ (sink.map (sinkState (readAfterAll read body))).toList) := by
  induction body generalizing read with
  | nil =>
    rcases sink with _ | d
    · exact threaded_nil read
    · exact .cons (readPath_sinkState read d) (threaded_nil .payload)
  | cons node body ih =>
    have hrest := ih h.2 (readAfter read node)
    rw [layNodes, show readAfterAll read (node :: body) = readAfterAll (readAfter read node) body
      from rfl]
    -- a state hands on the path of results; no state, no change
    rcases layNode_cases options read h.1 with ⟨state, hlay, hread, hafter⟩ | ⟨hlay, hafter⟩
    · rw [hafter] at hrest ⊢
      rw [hlay]
      exact .cons hread hrest
    · rw [hafter] at hrest ⊢
      rw [hlay]
      exact hrest

/-! ### Inside the states -/

/-- **A wired state.** A fan-out takes its whole input, and the chain that it runs has states and
is threaded from one element; both states of a branch take the whole input. -/
structure Wired (state : State) : Prop where
  fanOut : ∀ items concurrency iterator, state.kind = .forEach items concurrency iterator →
    state.input = .root ∧ iterator ≠ [] ∧ Threaded .root iterator
  branches : ∀ branch ∈ state.catches, branch.states.map (·.input) = [.root, .root]

/-- A state that is no fan-out and has no branches is wired. -/
theorem wired_leaf (id : String) (input : Path) {kind : StateKind}
    (h : ∀ items concurrency iterator, kind ≠ .forEach items concurrency iterator) :
    Wired ⟨id, input, kind, []⟩ :=
  ⟨fun _ _ _ hkind => (h _ _ _ hkind).elim, fun _ hmem => absurd hmem List.not_mem_nil⟩

theorem wired_sinkState (read : Path) (d : Delivery) : Wired (sinkState read d) := by
  obtain ⟨_ | _, typeName⟩ := d <;> exact wired_leaf _ _ (by simp [Builder.sinkKind])

theorem wired_invokeState (options : Options) (read : Path) (function : Resource) :
    ∀ state ∈ (Builder.invokeState options read function).reachable, Wired state := by
  intro state hmem
  rw [reachable_invokeState, List.mem_cons, List.mem_flatMap] at hmem
  rcases hmem with rfl | ⟨branch, hbranch, hstate⟩
  · refine ⟨fun _ _ _ hkind => ?_, fun branch hbranch => ?_⟩
    · simp [Builder.invokeState] at hkind
    · obtain ⟨queue, -, rfl⟩ := Option.map_eq_some_iff.mp (Option.mem_toList.mp hbranch)
      rfl
  · obtain ⟨queue, -, rfl⟩ := Option.map_eq_some_iff.mp (Option.mem_toList.mp hbranch)
    rw [Builder.catchBranch, List.mem_pair] at hstate
    rcases hstate with rfl | rfl
    · exact wired_leaf _ _ (by simp)
    · exact wired_leaf _ _ (by simp)

theorem wired_fanOutOver (read : Path) (nodes : List Node) {iterator : Chain}
    (hne : iterator ≠ []) (hthreaded : Threaded .root iterator) :
    Wired (fanOutOver read nodes iterator) := by
  refine ⟨fun items concurrency iterator' hkind => ?_, fun _ hmem => absurd hmem List.not_mem_nil⟩
  obtain ⟨-, -, rfl⟩ := StateKind.forEach.inj hkind
  exact ⟨rfl, hne, hthreaded⟩

mutual

/-- **Every state of a layout is wired**, those in iterators and branches included. -/
theorem wired_layNode (options : Options) :
    ∀ (read : Path) (node : Node), node.Inner →
      ∀ state ∈ reachableOfChain (layNode options read node), Wired state
  | read, .call c, _ => by
    rw [layNode, reachableOfChain_singleton]
    exact wired_invokeState options read c.function
  | read, .fanOut nodes, h => by
    intro state hmem
    by_cases hcall : haveCall nodes
    · rw [layNode, if_pos hcall, reachableOfChain_singleton, fanOutOver, reachable_forEach,
        List.mem_cons] at hmem
      rcases hmem with rfl | hinner
      · -- inside, the path starts over with one element
        have hempty := isEmpty_layNodes options .root h.1
        have hthreaded := threaded_layNodes options none h.1 .root
        rw [hcall] at hempty
        rw [Option.map_none, Option.toList_none, List.append_nil] at hthreaded
        exact wired_fanOutOver read nodes (List.isEmpty_eq_false_iff.mp hempty) hthreaded
      · exact wired_layNodes options .root nodes h.1 state hinner
    · rw [layNode, if_neg hcall] at hmem
      exact absurd hmem List.not_mem_nil

theorem wired_layNodes (options : Options) :
    ∀ (read : Path) (nodes : List Node), InnerChain nodes →
      ∀ state ∈ reachableOfChain (layNodes options read nodes), Wired state
  | _, [], _ => fun _ hmem => absurd hmem List.not_mem_nil
  | read, node :: nodes, h => by
    intro state hmem
    rw [layNodes, reachableOfChain_append, List.mem_append] at hmem
    rcases hmem with hfirst | hlater
    · exact wired_layNode options read node h.1 state hfirst
    · exact wired_layNodes options (readAfter read node) nodes h.2 state hlater

end

/-- **Data flows through a compiled pipeline from state to state.** The first state reads the payload
of the event and every later one the result before it; the same holds in every iterator at every
depth, where the first state reads one element. Fan-outs without a call do not show in this, for
they leave no state and hand on the path they were given. -/
theorem compile_threads_paths {options : Options} {p : Pipeline} {compiled : Compiled}
    (h : compile options p = .ok compiled) :
    compiled.machine.chain ≠ [] ∧ Threaded .detail compiled.machine.chain ∧
      ∀ state ∈ compiled.machine.chain.allStates, Wired state := by
  obtain ⟨src, body, sink, -, hbody, rfl, hne⟩ := exists_body_of_compile_eq_ok h
  refine ⟨hne, threaded_layNodes options sink hbody .detail, fun state hmem => ?_⟩
  rw [Chain.allStates, assembled, reachableOfChain_append, List.mem_append] at hmem
  rcases hmem with hinner | hsink
  · exact wired_layNodes options .detail body hbody state hinner
  · rcases sink with _ | d
    · exact absurd hsink List.not_mem_nil
    · rw [Option.map_some, Option.toList_some, reachableOfChain_singleton, reachable_sinkState,
        List.mem_singleton] at hsink
      exact hsink ▸ wired_sinkState _ d

theorem compile_orders_threads_paths :
    ∃ compiled, compile { deadLetter := some ⟨"dead", "queue:dead"⟩ } orders = .ok compiled ∧
      compiled.machine.chain.map (·.readPath.text) = ["$.detail", "$.Payload", "$.Payload"] ∧
      Threaded .detail compiled.machine.chain ∧
      compiled.machine.chain.allStates.length = 12 ∧
      ∀ state ∈ compiled.machine.chain.allStates, Wired state := by
  have hok : compile { deadLetter := some ⟨"dead", "queue:dead"⟩ } orders = .ok _ :=
    compile_eq_ok_iff.mpr ⟨_, _, rfl, violations_orders, rfl⟩
  obtain ⟨-, hthreaded, hwired⟩ := compile_threads_paths hok
  exact ⟨_, hok, rfl, hthreaded, rfl, hwired⟩

end EventFlow.Machine
