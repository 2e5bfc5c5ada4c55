import EventFlow.Machine.State
import Mathlib.Data.List.Basic

/-!
# States in their place

What a machine does after a state is not told by the state alone: it goes on with the state **after
it in its chain**. A `Placed` state carries the name of that one. Two lists of placed states are
read off a chain, without rendering it in any way.

* **The scope** of a chain, `scopeOfChain`, has its states and those of their branches, which may
  lead to each other. The chains that make it up are its strands (`mem_scopeOfChain_iff`). What a
  fan-out runs is a scope of its own.
* **All placed states**, `placedOfChain`, are those of the scope together with those of the scopes
  inside, depth first (`placedOfChain_eq_flatMap`).

Scopes are what an induction over nested chains goes along: what holds of a chain as soon as it
holds of the iterators in its scope, holds of every chain (`scope_induction`).
-/

namespace EventFlow.Machine

/-- The chain that a state runs for each element of a list; no states if it runs none. -/
def StateKind.iterator : StateKind → Chain
  | .forEach _ _ iterator => iterator
  | _ => []

/-- A state, and the name of the one after it in its chain, if there is one. -/
structure Placed where
  state : State
  next : Option String

/-! ### The scope of a chain -/

mutual

/-- A state in its place, and those of its branches. -/
def scopeOfState (next : Option String) : State → List Placed
  | ⟨id, input, kind, catches⟩ => ⟨⟨id, input, kind, catches⟩, next⟩ :: scopeOfBranches catches

/-- The states of some branches in their places. -/
def scopeOfBranches : List CatchBranch → List Placed
  | [] => []
  | ⟨_, _, states⟩ :: branches => scopeOfChain states ++ scopeOfBranches branches

/-- **The scope of a chain**: its states in their places, each followed by those of its
branches. -/
def scopeOfChain : List State → List Placed
  | [] => []
  | state :: states => scopeOfState (Chain.startAt states) state ++ scopeOfChain states

end

/-- The states in the scope of a chain. -/
def scopeStates (chain : Chain) : List State :=
  (scopeOfChain chain).map (·.state)

theorem scopeOfState_eq (next : Option String) (state : State) :
    scopeOfState next state = ⟨state, next⟩ :: scopeOfBranches state.catches := by
  obtain ⟨id, input, kind, catches⟩ := state
  rfl

theorem mem_scopeOfBranches_iff {p : Placed} {branches : List CatchBranch} :
    p ∈ scopeOfBranches branches ↔ ∃ branch ∈ branches, p ∈ scopeOfChain branch.states := by
  induction branches with
  | nil => simp [scopeOfBranches]
  | cons branch branches ih =>
    obtain ⟨errors, resultPath, states⟩ := branch
    simp [scopeOfBranches, ih]

/-! ### Strands -/

/-- **The strands of a chain**: the chain itself, and the strands of the branches of its states. -/
inductive Strand : Chain → Chain → Prop
  | self {chain : Chain} : Strand chain chain
  | branch {chain strand : Chain} {state : State} {branch : CatchBranch} (hstate : state ∈ chain)
      (hbranch : branch ∈ state.catches) (h : Strand branch.states strand) : Strand chain strand

/-- The branches of the states of a strand are strands. -/
theorem Strand.of_mem {chain strand : Chain} {state : State} {branch : CatchBranch}
    (h : Strand chain strand) (hstate : state ∈ strand) (hbranch : branch ∈ state.catches) :
    Strand chain branch.states := by
  induction h with
  | self => exact .branch hstate hbranch .self
  | branch hfirst hbranch' _ ih => exact .branch hfirst hbranch' (ih hstate)

/-- A placed state stands somewhere in a chain. -/
def Placed.StandsIn (p : Placed) (chain : Chain) : Prop :=
  ∃ before after, chain = before ++ p.state :: after ∧ p.next = Chain.startAt after

theorem Placed.StandsIn.cons {p : Placed} {chain : Chain} (h : p.StandsIn chain) (state : State) :
    p.StandsIn (state :: chain) := by
  obtain ⟨before, after, rfl, hnext⟩ := h
  exact ⟨state :: before, after, rfl, hnext⟩

theorem Placed.StandsIn.mem {p : Placed} {chain : Chain} (h : p.StandsIn chain) :
    p.state ∈ chain := by
  obtain ⟨before, after, rfl, -⟩ := h
  simp

theorem mem_scopeOfChain_of_standsIn {p : Placed} {chain : Chain} (h : p.StandsIn chain) :
    p ∈ scopeOfChain chain := by
  obtain ⟨before, after, rfl, hnext⟩ := h
  induction before with
  | nil =>
    rw [List.nil_append, scopeOfChain, scopeOfState_eq, ← hnext]
    exact List.mem_append_left _ List.mem_cons_self
  | cons first before ih => exact List.mem_append_right _ ih

theorem mem_scopeOfChain_of_branch {p : Placed} {chain : Chain} {state : State}
    {branch : CatchBranch} (hstate : state ∈ chain) (hbranch : branch ∈ state.catches)
    (h : p ∈ scopeOfChain branch.states) : p ∈ scopeOfChain chain := by
  induction chain with
  | nil => exact absurd hstate List.not_mem_nil
  | cons first chain ih =>
    rcases List.mem_cons.mp hstate with rfl | hlater
    · refine List.mem_append_left _ ?_
      rw [scopeOfState_eq]
      exact List.mem_cons_of_mem _ (mem_scopeOfBranches_iff.mpr ⟨branch, hbranch, h⟩)
    · exact List.mem_append_right _ (ih hlater)

mutual

theorem exists_strand_of_mem_scopeOfState {p : Placed} :
    ∀ {next : Option String} {state : State}, p ∈ scopeOfState next state →
      p = ⟨state, next⟩ ∨
        ∃ branch ∈ state.catches, ∃ strand, Strand branch.states strand ∧ p.StandsIn strand
  | _, ⟨_, _, _, catches⟩, h =>
    (List.mem_cons.mp h).imp_right (@exists_strand_of_mem_scopeOfBranches p catches)

theorem exists_strand_of_mem_scopeOfBranches {p : Placed} :
    ∀ {branches : List CatchBranch}, p ∈ scopeOfBranches branches →
      ∃ branch ∈ branches, ∃ strand, Strand branch.states strand ∧ p.StandsIn strand
  | ⟨_, _, states⟩ :: branches, h => by
    rcases List.mem_append.mp h with hfirst | hlater
    · exact ⟨_, List.mem_cons_self, @exists_strand_of_mem_scopeOfChain p states hfirst⟩
    · obtain ⟨branch, hbranch, hstrand⟩ := @exists_strand_of_mem_scopeOfBranches p branches hlater
      exact ⟨branch, List.mem_cons_of_mem _ hbranch, hstrand⟩

theorem exists_strand_of_mem_scopeOfChain {p : Placed} :
    ∀ {chain : List State}, p ∈ scopeOfChain chain →
      ∃ strand, Strand chain strand ∧ p.StandsIn strand
  | state :: states, h => by
    rcases List.mem_append.mp h with hfirst | hlater
    · rcases @exists_strand_of_mem_scopeOfState p _ state hfirst with
        rfl | ⟨branch, hbranch, strand, hstrand, hstands⟩
      · exact ⟨_, .self, [], states, rfl, rfl⟩
      · exact ⟨strand, .branch List.mem_cons_self hbranch hstrand, hstands⟩
    · obtain ⟨strand, hstrand, hstands⟩ := @exists_strand_of_mem_scopeOfChain p states hlater
      -- the rest of the chain is no strand of the chain, but the chain is one
      cases hstrand with
      | self => exact ⟨_, .self, hstands.cons state⟩
      | branch hstate hbranch hinner =>
        exact ⟨strand, .branch (List.mem_cons_of_mem _ hstate) hbranch hinner, hstands⟩

end

/-- **A scope is made up of strands**: a state is in a scope, in its place, exactly when it stands
in one of the strands. -/
theorem mem_scopeOfChain_iff {p : Placed} {chain : Chain} :
    p ∈ scopeOfChain chain ↔ ∃ strand, Strand chain strand ∧ p.StandsIn strand := by
  refine ⟨exists_strand_of_mem_scopeOfChain, ?_⟩
  rintro ⟨strand, hstrand, hstands⟩
  induction hstrand with
  | self => exact mem_scopeOfChain_of_standsIn hstands
  | branch hstate hbranch _ ih => exact mem_scopeOfChain_of_branch hstate hbranch (ih hstands)

theorem mem_scopeStates_of_strand {chain strand : Chain} {state : State}
    (hstrand : Strand chain strand) (hstate : state ∈ strand) : state ∈ scopeStates chain := by
  obtain ⟨before, after, rfl⟩ := List.append_of_mem hstate
  have hplaced : ⟨state, Chain.startAt after⟩ ∈ scopeOfChain chain :=
    mem_scopeOfChain_iff.mpr ⟨_, hstrand, before, after, rfl, rfl⟩
  exact List.mem_map.mpr ⟨_, hplaced, rfl⟩

/-! ### All placed states -/

mutual

/-- A state in its place, and those inside it. -/
def placedOfState (next : Option String) : State → List Placed
  | ⟨id, input, kind, catches⟩ =>
    ⟨⟨id, input, kind, catches⟩, next⟩ :: (placedOfKind kind ++ placedOfBranches catches)

/-- The states of an iterator in their places. -/
def placedOfKind : StateKind → List Placed
  | .forEach _ _ iterator => placedOfChain iterator
  | _ => []

/-- The states of some branches and those inside them, in their places. -/
def placedOfBranches : List CatchBranch → List Placed
  | [] => []
  | ⟨_, _, states⟩ :: branches => placedOfChain states ++ placedOfBranches branches

/-- **All states of a chain in their places**, those of iterators and branches included, depth
first. -/
def placedOfChain : List State → List Placed
  | [] => []
  | state :: states => placedOfState (Chain.startAt states) state ++ placedOfChain states

end

theorem placedOfKind_eq (kind : StateKind) : placedOfKind kind = placedOfChain kind.iterator := by
  cases kind <;> rfl

mutual

theorem map_state_placedOfState :
    ∀ (next : Option String) (state : State),
      (placedOfState next state).map (·.state) = state.reachable
  | next, ⟨id, input, kind, catches⟩ => by
    rw [placedOfState, State.reachable, List.map_cons, List.map_append, map_state_placedOfKind kind,
      map_state_placedOfBranches catches]

theorem map_state_placedOfKind :
    ∀ kind : StateKind, (placedOfKind kind).map (·.state) = kind.reachable
  | .forEach _ _ iterator => map_state_placedOfChain iterator
  | .invoke _ => rfl
  | .sendToQueue _ => rfl
  | .sendToEventBus _ _ _ => rfl
  | .catchAndForward _ => rfl
  | .fail => rfl

theorem map_state_placedOfBranches :
    ∀ branches : List CatchBranch,
      (placedOfBranches branches).map (·.state) = reachableOfBranches branches
  | [] => rfl
  | ⟨_, _, states⟩ :: branches => by
    rw [placedOfBranches, reachableOfBranches, List.map_append, map_state_placedOfChain states,
      map_state_placedOfBranches branches]

/-- The placed states are the states, in the same order. -/
theorem map_state_placedOfChain :
    ∀ chain : List State, (placedOfChain chain).map (·.state) = reachableOfChain chain
  | [] => rfl
  | state :: states => by
    rw [placedOfChain, reachableOfChain, List.map_append, map_state_placedOfState _ state,
      map_state_placedOfChain states]

end

theorem length_placedOfKind (kind : StateKind) :
    (placedOfKind kind).length = kind.reachable.length := by
  rw [← map_state_placedOfKind, List.length_map]

theorem length_placedOfBranches (branches : List CatchBranch) :
    (placedOfBranches branches).length = (reachableOfBranches branches).length := by
  rw [← map_state_placedOfBranches, List.length_map]

theorem length_placedOfChain (chain : Chain) :
    (placedOfChain chain).length = (reachableOfChain chain).length := by
  rw [← map_state_placedOfChain, List.length_map]

mutual

theorem placedOfState_eq_flatMap :
    ∀ (next : Option String) (state : State), placedOfState next state =
      (scopeOfState next state).flatMap fun p => p :: placedOfChain p.state.kind.iterator
  | next, ⟨id, input, kind, catches⟩ => by
    rw [placedOfState, scopeOfState, List.flatMap_cons, placedOfKind_eq,
      placedOfBranches_eq_flatMap catches, List.cons_append]

theorem placedOfBranches_eq_flatMap :
    ∀ branches : List CatchBranch, placedOfBranches branches =
      (scopeOfBranches branches).flatMap fun p => p :: placedOfChain p.state.kind.iterator
  | [] => rfl
  | ⟨_, _, states⟩ :: branches => by
    rw [placedOfBranches, scopeOfBranches, List.flatMap_append, placedOfChain_eq_flatMap states,
      placedOfBranches_eq_flatMap branches]

/-- **The placed states are those of the scope**, each followed by those of the scope inside it. -/
theorem placedOfChain_eq_flatMap :
    ∀ chain : List State, placedOfChain chain =
      (scopeOfChain chain).flatMap fun p => p :: placedOfChain p.state.kind.iterator
  | [] => rfl
  | state :: states => by
    rw [placedOfChain, scopeOfChain, List.flatMap_append, placedOfState_eq_flatMap _ state,
      placedOfChain_eq_flatMap states]

end

/-- The scope of a chain is part of its placed states. -/
theorem scopeOfChain_sublist (chain : Chain) :
    (scopeOfChain chain).Sublist (placedOfChain chain) := by
  rw [placedOfChain_eq_flatMap]
  generalize scopeOfChain chain = scope
  induction scope with
  | nil => exact .slnil
  | cons p scope ih =>
    rw [List.flatMap_cons, List.cons_append]
    exact (ih.trans (List.sublist_append_right _ _)).cons_cons p

theorem mem_allStates_of_mem_scopeOfChain {p : Placed} {chain : Chain}
    (hp : p ∈ scopeOfChain chain) : p.state ∈ chain.allStates := by
  rw [Chain.allStates, ← map_state_placedOfChain]
  exact List.mem_map_of_mem ((scopeOfChain_sublist chain).subset hp)

theorem mem_allStates_of_strand {chain strand : Chain} {state : State}
    (hstrand : Strand chain strand) (hstate : state ∈ strand) : state ∈ chain.allStates := by
  obtain ⟨p, hp, rfl⟩ := List.mem_map.mp (mem_scopeStates_of_strand hstrand hstate)
  exact mem_allStates_of_mem_scopeOfChain hp

/-- What an iterator in the scope of a chain holds, the chain holds. -/
theorem reachable_iterator_sublist {p : Placed} {chain : Chain} (hp : p ∈ scopeOfChain chain) :
    (reachableOfChain p.state.kind.iterator).Sublist (reachableOfChain chain) := by
  rw [← map_state_placedOfChain, ← map_state_placedOfChain, placedOfChain_eq_flatMap chain]
  refine List.Sublist.map _ ?_
  -- the iterator is listed right behind its state
  obtain ⟨before, after, hscope⟩ := List.append_of_mem hp
  rw [hscope, List.flatMap_append, List.flatMap_cons, List.cons_append]
  exact ((List.sublist_append_left _ _).cons p).trans (List.sublist_append_right _ _)

/-! ### Induction over scopes -/

/-- A property that a chain has as soon as the iterators in its scope have it. -/
def Inherited (P : Chain → Prop) : Prop :=
  ∀ chain, (∀ p ∈ scopeOfChain chain, P p.state.kind.iterator) → P chain

namespace Inherited

variable {P : Chain → Prop}

theorem nil (h : Inherited P) : P [] :=
  h [] fun _ hp => absurd hp List.not_mem_nil

mutual

theorem of_mem_scopeOfState (h : Inherited P) :
    ∀ (next : Option String) (state : State), ∀ p ∈ scopeOfState next state,
      P p.state.kind.iterator
  | _, ⟨_, _, kind, catches⟩, p, hp => by
    rcases List.mem_cons.mp hp with rfl | hbranch
    · exact of_kind h kind
    · exact of_mem_scopeOfBranches h catches p hbranch

theorem of_kind (h : Inherited P) : ∀ kind : StateKind, P kind.iterator
  | .forEach _ _ iterator => h iterator (of_mem_scopeOfChain h iterator)
  | .invoke _ => h.nil
  | .sendToQueue _ => h.nil
  | .sendToEventBus _ _ _ => h.nil
  | .catchAndForward _ => h.nil
  | .fail => h.nil

theorem of_mem_scopeOfBranches (h : Inherited P) :
    ∀ branches : List CatchBranch, ∀ p ∈ scopeOfBranches branches, P p.state.kind.iterator
  | ⟨_, _, states⟩ :: branches, p, hp => by
    rcases List.mem_append.mp hp with hfirst | hlater
    · exact of_mem_scopeOfChain h states p hfirst
    · exact of_mem_scopeOfBranches h branches p hlater

theorem of_mem_scopeOfChain (h : Inherited P) :
    ∀ chain : List State, ∀ p ∈ scopeOfChain chain, P p.state.kind.iterator
  | state :: states, p, hp => by
    rcases List.mem_append.mp hp with hfirst | hlater
    · exact of_mem_scopeOfState h _ state p hfirst
    · exact of_mem_scopeOfChain h states p hlater

end

end Inherited

/-- **Induction over nested chains**: what a chain has as soon as the iterators in its scope have
it, every chain has. -/
@[elab_as_elim]
theorem scope_induction {P : Chain → Prop} (chain : Chain)
    (step : ∀ chain, (∀ p ∈ scopeOfChain chain, P p.state.kind.iterator) → P chain) : P chain :=
  step chain (Inherited.of_mem_scopeOfChain step chain)

end EventFlow.Machine
