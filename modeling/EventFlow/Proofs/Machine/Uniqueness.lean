import EventFlow.Proofs.Machine.Layout
import EventFlow.Proofs.Machine.Steps
import Mathlib.Data.List.Flatten
import Mathlib.Data.List.Nodup

/-!
# No two states share a name

Whatever hooks a builder is given, in whatever order and whether it refused some of them or not, the
states that it holds have pairwise different names. The states it holds are those of the open
chains and those of the machine it has put together, with all that stands in iterators and in
branches (`heldIds`).

The invariant is `Distinct`: no name is held twice, and every name held is in use. It survives
refusals because a refusal only ever drops states or claims names, and either makes the invariant
easier (`Distinct.mono`). A state that is added brings new names; a fan-out that is left also brings
back the names of its iterator, which were held before and have just been let go. Both are the case
of a state added **next to names set aside** (`distinct_append`).
-/

namespace EventFlow.Machine

/-- The names of the states of a chain, those in iterators and branches included. -/
def idsOfChain (chain : Chain) : List String :=
  chain.allStates.map (·.id)

theorem idsOfChain_concat (chain : Chain) (state : State) :
    idsOfChain (chain ++ [state]) = idsOfChain chain ++ state.reachable.map (·.id) := by
  simp [idsOfChain, Chain.allStates, reachableOfChain_append, reachableOfChain_singleton]

namespace Builder

/-- The names of the machine a builder has put together. -/
def outputIds (b : Builder) : List String :=
  (b.output.map (idsOfChain ·.machine.chain)).getD []

/-- **The names a builder holds**: those of the states in its open chains, then those of the states
in the machine it has put together. -/
def heldIds (b : Builder) : List String :=
  b.chains.flatMap idsOfChain ++ b.outputIds

/-- **The invariant**: no name is held twice, and every name held is in use. -/
structure Distinct (b : Builder) : Prop where
  nodup : b.heldIds.Nodup
  emitted : ∀ id ∈ b.heldIds, id ∈ b.emitted

/-- Dropping states and claiming names keep the invariant. -/
theorem Distinct.mono {b b' : Builder} (h : b.Distinct) (hheld : b'.heldIds.Sublist b.heldIds)
    (hemitted : b.emitted ⊆ b'.emitted) : b'.Distinct :=
  ⟨h.nodup.sublist hheld, fun id hid => hemitted (h.emitted id (hheld.subset hid))⟩

theorem chains_eq_concat {b : Builder} (h : b.chains ≠ []) :
    b.chains = b.chains.dropLast ++ [b.innermost] := by
  rw [innermost, List.getLast?_eq_some_getLast h, Option.getD_some, List.dropLast_append_getLast h]

theorem heldIds_eq {b : Builder} (hopen : b.chains ≠ []) :
    b.heldIds =
      b.chains.dropLast.flatMap idsOfChain ++ idsOfChain b.innermost ++ b.outputIds := by
  rw [heldIds]
  conv_lhs => rw [chains_eq_concat hopen]
  simp

/-! ### Adding a state -/

theorem chains_added {b : Builder} (hopen : b.chains ≠ []) (state : State)
    (journal : List Log.Record) :
    (b.added state journal).chains = b.chains.dropLast ++ [b.innermost ++ [state]] := by
  have hmodify := modify_concat (· ++ [state]) b.chains.dropLast b.innermost
  rwa [← chains_eq_concat hopen, List.length_dropLast] at hmodify

/-- The names held after a state was added: those held before, and those of the state. -/
theorem heldIds_added {b : Builder} (hopen : b.chains ≠ []) (state : State)
    (journal : List Log.Record) :
    (b.added state journal).heldIds.Perm (b.heldIds ++ state.reachable.map (·.id)) := by
  have hafter : (b.added state journal).heldIds = b.chains.dropLast.flatMap idsOfChain
      ++ idsOfChain b.innermost ++ state.reachable.map (·.id) ++ b.outputIds := by
    rw [heldIds, chains_added hopen]
    simp [idsOfChain_concat, added, outputIds]
  rw [heldIds_eq hopen, hafter, List.append_assoc, List.append_assoc _ _ (state.reachable.map _)]
  exact List.perm_append_comm.append_left _

/-- **Adding a state next to names set aside** keeps the invariant, whatever comes of it: the names
of the state are those it claims and those set aside, which are in use but no longer held. -/
theorem distinct_append {b : Builder} {state : State} {aside : List String}
    (hids : (state.reachable.map (·.id)).Perm (claimedIds state ++ aside))
    (hnodup : (b.heldIds ++ aside).Nodup) (hemitted : ∀ id ∈ b.heldIds ++ aside, id ∈ b.emitted) :
    (outcome (append state) b).2.Distinct := by
  have hheld : b.Distinct := ⟨hnodup.of_append_left, fun id hid =>
    hemitted id (List.mem_append_left _ hid)⟩
  have hcases := append_cases state b
  generalize outcome (append state) b = r at hcases ⊢
  cases hcases with
  | noChain => exact hheld
  | refused => exact hheld.mono (List.Sublist.refl _) (List.subset_append_left _ _)
  | added hopen hclaim journal =>
    have hperm : (b.added state journal).heldIds.Perm
        (b.heldIds ++ aside ++ claimedIds state) := by
      refine (heldIds_added hopen state journal).trans ?_
      rw [List.append_assoc]
      exact (hids.trans List.perm_append_comm).append_left _
    refine ⟨hperm.nodup_iff.mpr ?_, fun id hid => ?_⟩
    · refine hnodup.append hclaim.nodup fun id hid hnew => ?_
      exact hclaim.fresh id hnew (hemitted id hid)
    · rcases List.mem_append.mp (hperm.mem_iff.mp hid) with hold | hnew
      · exact List.mem_append_left _ (hemitted id hold)
      · exact List.mem_append_right _ hnew

/-- The case in which nothing is set aside. -/
theorem Distinct.append {b : Builder} (h : b.Distinct) {state : State}
    (hids : state.reachable.map (·.id) = claimedIds state) :
    (outcome (append state) b).2.Distinct := by
  refine @distinct_append b state [] ?_ ?_ ?_
  · rw [hids, List.append_nil]
  · rw [List.append_nil]
    exact h.nodup
  · rw [List.append_nil]
    exact h.emitted

theorem ids_invokeState (options : Options) (read : Path) (function : Resource) :
    (invokeState options read function).reachable.map (·.id) =
      claimedIds (invokeState options read function) := by
  rw [reachable_invokeState, claimedIds, List.map_cons, List.map_flatMap]
  rfl

theorem Distinct.enterCall {b : Builder} (h : b.Distinct) (c : Call) :
    (outcome (enterCall c) b).2.Distinct := by
  rw [outcome_enterCall]
  split
  · exact h
  · exact h.append (ids_invokeState ..)

theorem Distinct.enterDeliver {b : Builder} (h : b.Distinct) (d : Delivery) :
    (outcome (enterDeliver d) b).2.Distinct := by
  have hids : (sinkState b.path.current d).reachable.map (·.id) =
      claimedIds (sinkState b.path.current d) := by
    rw [reachable_sinkState]
    rfl
  rw [outcome_enterDeliver]
  exact h.append hids

/-! ### Closing a level -/

theorem heldIds_closed {b : Builder} (hopen : b.chains ≠ []) :
    b.heldIds.Perm (b.closed.heldIds ++ idsOfChain b.innermost) := by
  have hclosed : b.closed.heldIds = b.chains.dropLast.flatMap idsOfChain ++ b.outputIds := rfl
  rw [heldIds_eq hopen, hclosed, List.append_assoc, List.append_assoc]
  exact List.perm_append_comm.append_left _

theorem closed_sublist (b : Builder) : b.closed.heldIds.Sublist b.heldIds :=
  ((List.dropLast_sublist _).flatMap _).append_right _

theorem ids_fanOutState (b : Builder) (c : Call) :
    (b.fanOutState c).reachable.map (·.id) =
      claimedIds (b.fanOutState c) ++ idsOfChain b.innermost := by
  rw [fanOutState, reachable_forEach]
  rfl

theorem Distinct.enterResult {b : Builder} (h : b.Distinct) :
    (outcome enterResult b).2.Distinct := by
  rw [outcome_enterResult]
  exact h.mono (List.Sublist.refl _) (List.Subset.refl _)

theorem Distinct.leaveFanOut {b : Builder} (h : b.Distinct) (depth : Nat) (nodes : List Node) :
    (outcome (leaveFanOut depth nodes) b).2.Distinct := by
  have hclosed : b.closed.Distinct := h.mono b.closed_sublist (List.Subset.refl _)
  rw [outcome_leaveFanOut]
  by_cases hlevels : b.chains.length < 2
  · rw [if_pos hlevels]
    exact h
  rw [if_neg hlevels]
  by_cases hempty : b.innermost.isEmpty
  · rw [if_pos hempty]
    exact hclosed.mono (List.Sublist.refl _) (List.Subset.refl _)
  rw [if_neg hempty]
  split
  · rename_i c _
    -- the iterator was let go with its level, and its names come back with the new state
    have hopen : b.chains ≠ [] := by
      rintro hnone
      simp [hnone] at hlevels
    have hheld := heldIds_closed hopen
    have hadded : (outcome (Builder.append (b.fanOutState c)) b.popped).2.Distinct := by
      refine distinct_append (.of_eq (b.ids_fanOutState c)) (hheld.nodup_iff.mp h.nodup) ?_
      exact fun id hid => h.emitted id (hheld.mem_iff.mpr hid)
    rw [outcome_bind]
    generalize outcome (Builder.append (b.fanOutState c)) b.popped = r at hadded ⊢
    obtain ⟨_ | _, b'⟩ := r
    · exact hadded
    · exact hadded.enterResult
  · -- the fan-out is not opened by a call: its states are lost, their names stay in use
    exact hclosed

/-! ### Leaving the pipeline -/

theorem Distinct.leavePipeline {b : Builder} (h : b.Distinct) :
    (outcome leavePipeline b).2.Distinct := by
  rw [outcome_leavePipeline]
  by_cases hlevels : b.chains.length ≠ 1
  · rw [if_pos hlevels]
    exact h
  rw [if_neg hlevels]
  rcases b.source with _ | bus
  · exact h
  dsimp only
  by_cases hempty : b.innermost.isEmpty
  · rw [if_pos hempty]
    exact h.mono (List.sublist_append_right _ _) (List.Subset.refl _)
  · -- the chain becomes the machine, in the place of the one put together before
    have hopen : b.chains ≠ [] := by
      rintro hnone
      simp [hnone] at hlevels
    rw [if_neg hempty]
    refine h.mono ?_ (List.Subset.refl _)
    rw [heldIds_eq hopen, List.append_assoc]
    exact (List.sublist_append_left _ _).trans (List.sublist_append_right _ _)

/-! ### Whole runs -/

theorem Distinct.enterFanOut {b : Builder} (h : b.Distinct) :
    (outcome enterFanOut b).2.Distinct := by
  refine h.mono ?_ (List.Subset.refl _)
  simp [Builder.enterFanOut, heldIds, outputIds, idsOfChain, Chain.allStates, reachableOfChain]

/-- **Every hook keeps the invariant**, with any node and whether it refuses or not. -/
theorem Distinct.visit {b : Builder} (h : b.Distinct) (hook : Hook) :
    (outcome (visit hook) b).2.Distinct := by
  obtain ⟨moment, depth, subject⟩ := hook
  cases moment with
  | enter =>
    cases subject with
    | pipeline nodes => exact h
    | source s => exact h.mono (List.Sublist.refl _) (List.Subset.refl _)
    | call c => exact h.enterCall c
    | fanOut nodes => exact h.enterFanOut
    | deliver d => exact h.enterDeliver d
  | leave =>
    cases subject with
    | pipeline nodes => exact h.leavePipeline
    | source s => exact h
    | call c => exact h.enterResult
    | fanOut nodes => exact h.leaveFanOut depth nodes
    | deliver d => exact h

theorem output_of_finish {b : Builder} {compiled : Compiled} (h : b.finish = .ok compiled) :
    b.output = some compiled := by
  rw [finish] at h
  split at h
  · rename_i heq
    rw [heq, Except.ok.inj h]
  · cases h

theorem distinct_new (options : Options) : ({ options } : Builder).Distinct :=
  ⟨List.nodup_nil, fun _ hid => absurd hid List.not_mem_nil⟩

/-- **No two states that a builder holds share a name**, whatever hooks it was given: with any nodes,
in any order, and also after it refused some of them. All names held are in use. So a machine that
it hands out has states with pairwise different names, those in iterators and branches included. -/
theorem held_ids_distinct (options : Options) (hooks : List Hook) :
    let b := visitAll Builder.visit { options } hooks
    b.heldIds.Nodup ∧ (∀ id ∈ b.heldIds, id ∈ b.emitted) ∧
      ∀ compiled, b.finish = .ok compiled →
        (compiled.machine.chain.allStates.map (·.id)).Nodup := by
  intro b
  have h : b.Distinct := visitAll_induction (fun hook _ h => h.visit hook) (distinct_new options) hooks
  refine ⟨h.nodup, h.emitted, fun compiled hfinish => ?_⟩
  have houtput : b.outputIds = compiled.machine.chain.allStates.map (·.id) := by
    rw [outputIds, output_of_finish hfinish]
    rfl
  rw [← houtput]
  exact h.nodup.of_append_right

/-- Hooks that no walk gives: a call comes twice, and a fan-out is left with a node that was never
entered, so its state is lost and `rate` stays claimed. -/
def strayHooks : List Hook :=
  let price : Call := ⟨⟨"price", "fn:price"⟩, 1⟩
  let tax : Call := ⟨⟨"tax", "fn:tax"⟩, 2⟩
  let rate : Call := ⟨⟨"rate", "fn:rate"⟩, 1⟩
  let sink : Delivery := ⟨.queue ⟨"done", "queue:done"⟩, "Total"⟩
  [⟨.enter, 0, .source ⟨⟨"orders", "bus:orders"⟩, [], "Order"⟩⟩, ⟨.enter, 0, .call price⟩,
    ⟨.enter, 0, .call price⟩, ⟨.enter, 0, .fanOut []⟩, ⟨.enter, 1, .call rate⟩,
    ⟨.leave, 0, .fanOut [.deliver sink]⟩, ⟨.enter, 0, .fanOut []⟩, ⟨.enter, 1, .call tax⟩,
    ⟨.enter, 1, .call rate⟩, ⟨.leave, 0, .fanOut [.call tax]⟩, ⟨.leave, 0, .pipeline []⟩]

theorem held_ids_distinct_strayHooks :
    ∃ compiled, (visitAll Builder.visit { options := { deadLetter := some ⟨"lost", "queue:lost"⟩ } }
        strayHooks).finish = .ok compiled ∧
      compiled.machine.chain.allStates.length = 7 ∧
      (compiled.machine.chain.allStates.map (·.id)).Nodup := by
  obtain ⟨-, -, hfinished⟩ :=
    held_ids_distinct { deadLetter := some ⟨"lost", "queue:lost"⟩ } strayHooks
  exact ⟨_, rfl, rfl, hfinished _ rfl⟩

end Builder

end EventFlow.Machine
