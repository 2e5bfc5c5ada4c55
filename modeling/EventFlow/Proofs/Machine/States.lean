import EventFlow.Proofs.Machine.Decoration
import EventFlow.Proofs.Machine.Scopes
import EventFlow.Proofs.Machine.Uniqueness

/-!
# The states of a compiled pipeline

A compiled pipeline has states of five makes and no others: a call, the two states of its branch, a
fan-out and the delivery. `Crafted` says what each of them looks like, and `compile_states` says
that all states are crafted, at every depth. Later proofs go by cases on this list and do not look
at the layout any more.

Calls, fan-outs and deliveries make up the chains that data flows through (`Mainline`), the handlers
of failures only ever stand in branches. That, and the different names of all states, is the rest of
what is said here about a compiled pipeline.
-/

namespace EventFlow.Machine

/-- **A chain that data flows through**: it has states, and none of them handles a failure. -/
structure Mainline (chain : Chain) : Prop where
  ne_nil : chain ≠ []
  isHandler : ∀ state ∈ chain, state.kind.isHandler = false

theorem Mainline.kind_ne_fail {chain : Chain} (h : Mainline chain) {state : State}
    (hstate : state ∈ chain) : state.kind ≠ .fail := by
  intro hkind
  have hhandler := h.isHandler state hstate
  rw [hkind] at hhandler
  exact Bool.noConfusion hhandler

/-- **What the states of a compiled pipeline look like.** -/
inductive Crafted (options : Options) : State → Prop
  /-- A call, with its branch if failures are forwarded. -/
  | call (read : Path) (function : Resource) :
      Crafted options (Builder.invokeState options read function)
  /-- The state that forwards the failed input of a function. -/
  | forward (function queue : Resource) :
      Crafted options ⟨Naming.forward function.id, .root, .catchAndForward queue, []⟩
  /-- The state that ends the machine after a function failed. -/
  | fail (function : Resource) : Crafted options ⟨Naming.fail function.id, .root, .fail, []⟩
  /-- A fan-out, named after the states that it runs. -/
  | fanOut (items : Path) (concurrency : Nat) {iterator : Chain} (h : Mainline iterator) :
      Crafted options
        ⟨Naming.fanOut (joinedIds iterator), .root, .forEach items concurrency iterator, []⟩
  /-- The delivery. -/
  | sink (read : Path) (d : Delivery) : Crafted options (sinkState read d)

/-- The branch of a call is the only one there is. -/
theorem Crafted.exists_catchBranch {options : Options} {state : State} (h : Crafted options state)
    {branch : CatchBranch} (hbranch : branch ∈ state.catches) :
    ∃ function queue, branch = Builder.catchBranch function queue := by
  cases h with
  | call read function =>
    obtain ⟨queue, -, rfl⟩ := Option.map_eq_some_iff.mp (Option.mem_toList.mp hbranch)
    exact ⟨function, queue, rfl⟩
  | forward => exact absurd hbranch List.not_mem_nil
  | fail => exact absurd hbranch List.not_mem_nil
  | fanOut => exact absurd hbranch List.not_mem_nil
  | sink => exact absurd hbranch List.not_mem_nil

/-- A fan-out runs a chain that data flows through. -/
theorem Crafted.mainline {options : Options} {state : State} (h : Crafted options state)
    {items : Path} {concurrency : Nat} {iterator : Chain}
    (hkind : state.kind = .forEach items concurrency iterator) : Mainline iterator := by
  cases h with
  | fanOut _ _ hmain =>
    obtain ⟨-, -, rfl⟩ := StateKind.forEach.inj hkind
    exact hmain
  | sink read d =>
    obtain ⟨_ | _, typeName⟩ := d
    · exact absurd hkind (by simp [sinkState, Builder.sinkKind])
    · exact absurd hkind (by simp [sinkState, Builder.sinkKind])
  | call => exact absurd hkind (by simp [Builder.invokeState])
  | forward => exact absurd hkind (by simp)
  | fail => exact absurd hkind (by simp)

/-- Names of states begin in one of five ways. -/
theorem Crafted.lead_mem {options : Options} {state : State} (h : Crafted options state) :
    Naming.lead state.id ∈ [['M', 'a'], ['T', 'r'], ['E', 'r'], ['S', 'e'], ['S', 'i']] := by
  cases h <;> simp [Builder.invokeState, sinkState]

/-! ### Layouts -/

theorem isHandler_sinkState (read : Path) (d : Delivery) :
    (sinkState read d).kind.isHandler = false := by
  obtain ⟨_ | _, typeName⟩ := d <;> rfl

theorem isHandler_layNode {options : Options} {read : Path} {node : Node} :
    ∀ state ∈ layNode options read node, state.kind.isHandler = false := by
  intro state hmem
  cases node with
  | source s => exact absurd hmem List.not_mem_nil
  | call c =>
    rw [List.mem_singleton.mp hmem]
    rfl
  | fanOut nodes =>
    rw [layNode] at hmem
    split at hmem
    · rw [List.mem_singleton.mp hmem]
      rfl
    · exact absurd hmem List.not_mem_nil
  | deliver d =>
    rw [List.mem_singleton.mp hmem]
    exact isHandler_sinkState read d

/-- No state of a layout handles a failure, those in branches apart. -/
theorem isHandler_layNodes {options : Options} {read : Path} {nodes : List Node} :
    ∀ state ∈ layNodes options read nodes, state.kind.isHandler = false := by
  induction nodes generalizing read with
  | nil => exact fun _ hmem => absurd hmem List.not_mem_nil
  | cons node nodes ih =>
    intro state hmem
    exact (List.mem_append.mp hmem).elim (isHandler_layNode state) (ih state)

/-- A fan-out in which a function is called runs a chain that data flows through. -/
theorem mainline_layNodes (options : Options) (read : Path) {nodes : List Node}
    (h : InnerChain nodes) (hcall : haveCall nodes) : Mainline (layNodes options read nodes) := by
  have hempty := isEmpty_layNodes options read h
  rw [hcall] at hempty
  exact ⟨List.isEmpty_eq_false_iff.mp hempty, isHandler_layNodes⟩

theorem crafted_invokeState (options : Options) (read : Path) (function : Resource) :
    ∀ state ∈ (Builder.invokeState options read function).reachable, Crafted options state := by
  intro state hmem
  rw [reachable_invokeState, List.mem_cons, List.mem_flatMap] at hmem
  rcases hmem with rfl | ⟨branch, hbranch, hstate⟩
  · exact .call read function
  · obtain ⟨queue, -, rfl⟩ := Option.map_eq_some_iff.mp (Option.mem_toList.mp hbranch)
    rw [Builder.catchBranch, List.mem_pair] at hstate
    rcases hstate with rfl | rfl
    · exact .forward function queue
    · exact .fail function

mutual

/-- **Every state of a layout is crafted**, those in iterators and branches included. -/
theorem crafted_layNode (options : Options) :
    ∀ (read : Path) (node : Node), node.Inner →
      ∀ state ∈ reachableOfChain (layNode options read node), Crafted options state
  | read, .call c, _ => by
    rw [layNode, reachableOfChain_singleton]
    exact crafted_invokeState options read c.function
  | read, .fanOut nodes, h => by
    intro state hmem
    by_cases hcall : haveCall nodes
    · rw [layNode, if_pos hcall, reachableOfChain_singleton, fanOutOver, reachable_forEach,
        List.mem_cons] at hmem
      rcases hmem with rfl | hinner
      · exact .fanOut _ _ (mainline_layNodes options .root h.1 hcall)
      · exact crafted_layNodes options .root nodes h.1 state hinner
    · rw [layNode, if_neg hcall] at hmem
      exact absurd hmem List.not_mem_nil

theorem crafted_layNodes (options : Options) :
    ∀ (read : Path) (nodes : List Node), InnerChain nodes →
      ∀ state ∈ reachableOfChain (layNodes options read nodes), Crafted options state
  | _, [], _ => fun _ hmem => absurd hmem List.not_mem_nil
  | read, node :: nodes, h => by
    intro state hmem
    rw [layNodes, reachableOfChain_append, List.mem_append] at hmem
    rcases hmem with hfirst | hlater
    · exact crafted_layNode options read node h.1 state hfirst
    · exact crafted_layNodes options (readAfter read node) nodes h.2 state hlater

end

/-! ### Compiled pipelines -/

/-- **What is known of the states of a compiled chain**: data flows through it, all its states are
crafted, and no two of them share a name. -/
structure Manufactured (options : Options) (chain : Chain) : Prop where
  mainline : Mainline chain
  crafted : ∀ state ∈ chain.allStates, Crafted options state
  nodup : (idsOfChain chain).Nodup

/-- A name that begins like none of a state is not the name of one. -/
theorem Manufactured.not_mem_idsOfChain {options : Options} {chain : Chain}
    (h : Manufactured options chain) {id : String}
    (hid : Naming.lead id ∉ [['M', 'a'], ['T', 'r'], ['E', 'r'], ['S', 'e'], ['S', 'i']]) :
    id ∉ idsOfChain chain := by
  intro hmem
  obtain ⟨state, hstate, rfl⟩ := List.mem_map.mp hmem
  exact hid (h.crafted state hstate).lead_mem

/-- What is known of a chain is known of the iterators in its scope. -/
theorem Manufactured.iterator {options : Options} {chain : Chain} (h : Manufactured options chain)
    {p : Placed} (hp : p ∈ scopeOfChain chain) {items : Path} {concurrency : Nat} {iterator : Chain}
    (hkind : p.state.kind = .forEach items concurrency iterator) :
    Manufactured options iterator := by
  have hiterator : p.state.kind.iterator = iterator := by
    rw [hkind]
    rfl
  have hinner := hiterator ▸ reachable_iterator_sublist hp
  exact ⟨(h.crafted p.state (mem_allStates_of_mem_scopeOfChain hp)).mainline hkind,
    fun state hstate => h.crafted state (hinner.subset hstate), h.nodup.sublist (hinner.map _)⟩

/-- Every state of a chain, at any depth, stands in the scope of a chain inside of which the same is
known. -/
theorem Manufactured.exists_scope_of_mem_placed {options : Options} {chain : Chain}
    (h : Manufactured options chain) {p : Placed} (hp : p ∈ placedOfChain chain) :
    ∃ inner, Manufactured options inner ∧ inner.allStates ⊆ chain.allStates ∧
      p ∈ scopeOfChain inner := by
  induction chain using scope_induction with | step chain ih => ?_
  -- a placed state is in the scope, or behind a state of the scope that runs it
  rw [placedOfChain_eq_flatMap, List.mem_flatMap] at hp
  obtain ⟨q, hq, hmem⟩ := hp
  rcases List.mem_cons.mp hmem with rfl | hdeeper
  · exact ⟨chain, h, List.Subset.refl _, hq⟩
  · have hiterator : Manufactured options q.state.kind.iterator := by
      rcases hkind : q.state.kind with _ | ⟨items, concurrency, iterator⟩ | _ | _ | _ | _
      case forEach => exact h.iterator hq hkind
      all_goals
        rw [hkind] at hdeeper
        exact absurd hdeeper List.not_mem_nil
    obtain ⟨inner, hinner, hsubset, hscope⟩ := ih q hq hiterator hdeeper
    exact ⟨inner, hinner, List.Subset.trans hsubset (reachable_iterator_sublist hq).subset, hscope⟩

/-- The strands of a chain are the chain and the branches of its calls. -/
theorem Manufactured.strand_cases {options : Options} {chain strand : Chain}
    (h : Manufactured options chain) (hstrand : Strand chain strand) :
    strand = chain ∨ ∃ state ∈ chain, ∃ branch ∈ state.catches,
      strand = branch.states ∧ ∃ function queue, branch = Builder.catchBranch function queue := by
  cases hstrand with
  | self => exact .inl rfl
  | @branch _ _ state branch hstate hbranch hinner =>
    have hcrafted := h.crafted state (mem_allStates_of_strand .self hstate)
    obtain ⟨function, queue, rfl⟩ := hcrafted.exists_catchBranch hbranch
    refine .inr ⟨state, hstate, _, hbranch, ?_, function, queue, rfl⟩
    -- neither state of a branch has branches of its own
    cases hinner with
    | self => rfl
    | branch hstate' hbranch' _ =>
      rcases List.mem_pair.mp hstate' with rfl | rfl
      · exact absurd hbranch' List.not_mem_nil
      · exact absurd hbranch' List.not_mem_nil

/-- **A failure ends a branch.** Nothing comes after it, and it is the last state of a branch of
another state. -/
theorem Manufactured.ends_branch_of_fail {options : Options} {chain : Chain}
    (h : Manufactured options chain) {p : Placed} (hp : p ∈ placedOfChain chain)
    (hfail : p.state.kind = .fail) :
    p.next = none ∧ ∃ owner ∈ chain.allStates, ∃ branch ∈ owner.catches,
      branch.states.getLast? = some p.state := by
  obtain ⟨inner, hinner, hsubset, hscope⟩ := h.exists_scope_of_mem_placed hp
  obtain ⟨strand, hstrand, hstands⟩ := mem_scopeOfChain_iff.mp hscope
  rcases hinner.strand_cases hstrand with
    rfl | ⟨owner, howner, branch, hbranch, rfl, function, queue, rfl⟩
  · exact absurd hfail (hinner.mainline.kind_ne_fail hstands.mem)
  · -- a branch forwards first and fails last
    obtain ⟨before, after, hstates, hnext⟩ := hstands
    rcases before with _ | ⟨first, _ | ⟨second, before⟩⟩
    · obtain ⟨hforward, -⟩ := List.cons.inj hstates
      rw [← hforward] at hfail
      exact absurd hfail (by simp)
    · obtain ⟨-, htail⟩ := List.cons.inj hstates
      obtain ⟨hlast, rfl⟩ := List.cons.inj htail
      exact ⟨hnext, owner, hsubset (mem_allStates_of_strand .self howner), _, hbranch,
        congrArg some hlast⟩
    · exact absurd (congrArg List.length hstates) (by simp [Builder.catchBranch])

/-- No two states of a compiled pipeline share a name. -/
theorem nodup_idsOfChain_of_compile {options : Options} {p : Pipeline} {compiled : Compiled}
    (h : compile options p = .ok compiled) : (idsOfChain compiled.machine.chain).Nodup := by
  have hhooks (hook : Hook) : Keeps Builder.Distinct (Builder.visit hook) :=
    fun _ hb => hb.visit hook
  have hkept :=
    keeps_walk CompileError.misplaced hhooks p { options } (Builder.distinct_new options)
  unfold compile compileWithJournal at h
  rw [outcome] at hkept
  split at h
  · rename_i b heq
    rw [heq] at hkept
    have hids : b.outputIds = idsOfChain compiled.machine.chain := by
      rw [Builder.outputIds, Builder.output_of_finish h]
      rfl
    exact hids ▸ hkept.nodup.of_append_right
  · exact absurd h (by simp)

/-- **The states of a compiled pipeline.** -/
theorem compile_states {options : Options} {p : Pipeline} {compiled : Compiled}
    (h : compile options p = .ok compiled) : Manufactured options compiled.machine.chain := by
  have hnodup := nodup_idsOfChain_of_compile h
  obtain ⟨src, body, sink, -, hbody, rfl, hne⟩ := exists_body_of_compile_eq_ok h
  refine ⟨⟨hne, fun state hmem => ?_⟩, fun state hmem => ?_, hnodup⟩
  · rcases List.mem_append.mp hmem with hinner | hsink
    · exact isHandler_layNodes state hinner
    · obtain ⟨d, -, rfl⟩ := Option.map_eq_some_iff.mp (Option.mem_toList.mp hsink)
      exact isHandler_sinkState _ d
  · rw [Chain.allStates, assembled, reachableOfChain_append, List.mem_append] at hmem
    rcases hmem with hinner | hsink
    · exact crafted_layNodes options .detail body hbody state hinner
    · rcases sink with _ | d
      · exact absurd hsink List.not_mem_nil
      · rw [Option.map_some, Option.toList_some, reachableOfChain_singleton, reachable_sinkState,
          List.mem_singleton] at hsink
        exact hsink ▸ .sink _ d

end EventFlow.Machine
