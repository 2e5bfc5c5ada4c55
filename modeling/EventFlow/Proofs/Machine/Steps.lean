import EventFlow.Machine.Builder
import EventFlow.Proofs.Pipeline.Outcome

/-!
# What the hooks of a builder do

Everything that is proved about machines goes through the hooks of `EventFlow.Machine.Builder`. This
file says once what each of them can do from an **arbitrary** builder, refusals included, so that
nothing later has to open their definitions.

| hook | what it does | statement |
|---|---|---|
| a state is added | three cases | `AppendOutcome`, `append_cases` |
| a fan-out is left | an equation | `outcome_leaveFanOut` |
| the pipeline is left | an equation | `outcome_leavePipeline` |

Adding a state is the only place with a loop: the names of the state are claimed one after the
other, and a refusal in the middle leaves the names before it claimed although no state has them.
-/

namespace EventFlow.Machine.Builder

/-! ### Claiming names -/

/-- Names that can be claimed one after the other: none is in use, and none comes twice. -/
structure Unclaimed (used ids : List String) : Prop where
  nodup : ids.Nodup
  fresh : ∀ id ∈ ids, id ∉ used

theorem Unclaimed.nil (used : List String) : Unclaimed used [] :=
  ⟨List.nodup_nil, fun _ h => absurd h List.not_mem_nil⟩

theorem unclaimed_cons_iff {used ids : List String} {id : String} :
    Unclaimed used (id :: ids) ↔ id ∉ used ∧ Unclaimed (used ++ [id]) ids := by
  constructor
  · rintro ⟨hnodup, hfresh⟩
    obtain ⟨hid, hids⟩ := List.nodup_cons.mp hnodup
    refine ⟨hfresh id List.mem_cons_self, hids, fun other hother hmem => ?_⟩
    rcases List.mem_append.mp hmem with hused | heq
    · exact hfresh other (List.mem_cons_of_mem _ hother) hused
    · exact hid (List.mem_singleton.mp heq ▸ hother)
  · rintro ⟨hid, hnodup, hfresh⟩
    refine ⟨List.nodup_cons.mpr ⟨fun hmem => ?_, hnodup⟩, fun other hother => ?_⟩
    · exact hfresh id hmem (List.mem_append_right _ List.mem_cons_self)
    · rcases List.mem_cons.mp hother with rfl | htail
      · exact hid
      · exact fun hused => hfresh other htail (List.mem_append_left _ hused)

theorem unclaimed_singleton_iff {used : List String} {id : String} :
    Unclaimed used [id] ↔ id ∉ used := by
  rw [unclaimed_cons_iff]
  exact and_iff_left (.nil _)

theorem outcome_claim (id : String) (b : Builder) :
    outcome (claim id) b = if id ∈ b.emitted then (.error (.duplicateState id), b)
      else (.ok (), { b with emitted := b.emitted ++ [id] }) := by
  simp only [claim, outcome_bind, outcome_get, List.contains_eq_mem]
  by_cases h : id ∈ b.emitted <;> simp [h]

/-- **What claiming names can give**: all of them are claimed, or those before the first one that
is in use by then. -/
inductive ClaimOutcome (ids : List String) (b : Builder) : Except CompileError Unit × Builder → Prop
  /-- All names are claimed. -/
  | claimed (h : Unclaimed b.emitted ids) :
      ClaimOutcome ids b (.ok (), { b with emitted := b.emitted ++ ids })
  /-- A name is in use, and those before it stay claimed. -/
  | refused {taken rest : List String} {id : String} (hids : ids = taken ++ id :: rest)
      (hid : id ∈ b.emitted ++ taken) (h : Unclaimed b.emitted taken) :
      ClaimOutcome ids b (.error (.duplicateState id), { b with emitted := b.emitted ++ taken })

theorem claim_cases (ids : List String) (b : Builder) :
    ClaimOutcome ids b (outcome (ids.forM claim) b) := by
  induction ids generalizing b with
  | nil =>
    have hnone : ClaimOutcome [] b (.ok (), { b with emitted := b.emitted ++ [] }) :=
      .claimed (.nil _)
    simpa using hnone
  | cons id ids ih =>
    rw [show (id :: ids).forM claim = (claim id >>= fun _ => ids.forM claim) from rfl]
    -- the first name is refused at once, or it is in use for all that come after it
    by_cases hid : id ∈ b.emitted
    · rw [outcome_bind, outcome_claim, if_pos hid]
      have hfirst : ClaimOutcome (id :: ids) b
          (.error (.duplicateState id), { b with emitted := b.emitted ++ [] }) :=
        .refused (List.nil_append _).symm (by simpa using hid) (.nil _)
      simpa using hfirst
    · have hclaim : outcome (claim id) b = (.ok (), { b with emitted := b.emitted ++ [id] }) := by
        rw [outcome_claim, if_neg hid]
      have hrest := ih { b with emitted := b.emitted ++ [id] }
      rw [outcome_bind_ok hclaim]
      generalize outcome (ids.forM claim) { b with emitted := b.emitted ++ [id] } = r at hrest ⊢
      cases hrest with
      | claimed h =>
        have hall : ClaimOutcome (id :: ids) b
            (.ok (), { b with emitted := b.emitted ++ id :: ids }) :=
          .claimed (unclaimed_cons_iff.mpr ⟨hid, h⟩)
        simpa using hall
      | @refused taken rest other hids hother h =>
        have hsome : ClaimOutcome (id :: ids) b
            (.error (.duplicateState other), { b with emitted := b.emitted ++ id :: taken }) :=
          .refused (by rw [hids, List.cons_append]) (by simpa using hother)
            (unclaimed_cons_iff.mpr ⟨hid, h⟩)
        simpa using hsome

/-! ### Adding a state -/

/-- A builder after a state was added to its innermost chain. -/
def added (b : Builder) (state : State) (journal : List Log.Record) : Builder :=
  { b with
    names := b.names.modify (b.chains.length - 1) (· ++ state.id)
    chains := b.chains.modify (b.chains.length - 1) (· ++ [state])
    emitted := b.emitted ++ claimedIds state
    journal }

theorem modify_concat {α : Type} (f : α → α) (l : List α) (a : α) :
    (l ++ [a]).modify l.length f = l ++ [f a] := by
  simp [List.modify_eq_take_drop]

/-- **What adding a state can give**: there is no chain to add it to, one of its names is in use, or
it is added. -/
inductive AppendOutcome (state : State) (b : Builder) : Except CompileError Unit × Builder → Prop
  /-- No chain is open. -/
  | noChain (h : b.chains = []) : AppendOutcome state b (.error (.noOpenChain state.id), b)
  /-- A name of the state is in use, and the names before it stay claimed. -/
  | refused (hopen : b.chains ≠ []) {taken rest : List String} {id : String}
      (hids : claimedIds state = taken ++ id :: rest) (hid : id ∈ b.emitted ++ taken)
      (h : Unclaimed b.emitted taken) :
      AppendOutcome state b
        (.error (.duplicateState id), { b with emitted := b.emitted ++ taken })
  /-- The state is added. -/
  | added (hopen : b.chains ≠ []) (h : Unclaimed b.emitted (claimedIds state))
      (journal : List Log.Record) : AppendOutcome state b (.ok (), b.added state journal)

theorem append_cases (state : State) (b : Builder) :
    AppendOutcome state b (outcome (append state) b) := by
  simp only [append, outcome_bind, outcome_get]
  rcases hlevel : b.chains.length with _ | level
  · simpa using AppendOutcome.noChain (List.length_eq_zero_iff.mp hlevel)
  · have hopen : b.chains ≠ [] := List.ne_nil_of_length_eq_add_one hlevel
    have hclaims := claim_cases (claimedIds state) b
    simp only [outcome_bind]
    generalize outcome ((claimedIds state).forM claim) b = r at hclaims ⊢
    cases hclaims with
    | claimed h =>
      have hadded := AppendOutcome.added hopen h (b.journal ++ [⟨.debug, logTarget, "state appended",
        [("state", .shown state.id), ("kind", .name state.kind.name),
          ("input", .shown state.input.text), ("depth", .number level)]⟩])
      simpa [tell, Builder.added, hlevel] using hadded
    | refused hids hid h => exact .refused hopen hids hid h

/-- A state whose names can be claimed is added. -/
theorem outcome_append_of_unclaimed {state : State} {b : Builder} (hopen : b.chains ≠ [])
    (h : Unclaimed b.emitted (claimedIds state)) :
    ∃ journal, outcome (append state) b = (.ok (), b.added state journal) := by
  have hcases := append_cases state b
  generalize outcome (append state) b = r at hcases ⊢
  cases hcases with
  | noChain hnone => exact absurd hnone hopen
  | @refused _ taken rest id hids hid _ =>
    -- the name that was refused is one of those that can be claimed
    exfalso
    rw [hids] at h
    rcases List.mem_append.mp hid with hused | htaken
    · exact h.fresh id (by simp) hused
    · exact (List.nodup_append.mp h.nodup).2.2 id htaken id List.mem_cons_self rfl
  | added _ _ journal => exact ⟨journal, rfl⟩

/-- A state whose own name is in use is refused. -/
theorem outcome_append_of_mem {state : State} {b : Builder} (hopen : b.chains ≠ [])
    (h : state.id ∈ b.emitted) :
    outcome (append state) b = (.error (.duplicateState state.id), b) := by
  have hcases := append_cases state b
  generalize outcome (append state) b = r at hcases ⊢
  cases hcases with
  | noChain hnone => exact absurd hnone hopen
  | @refused _ taken rest id hids _ htaken =>
    -- nothing can stand before the name of the state itself
    cases taken with
    | nil =>
      obtain ⟨hid, -⟩ := List.cons.inj (show state.id :: _ = id :: rest from hids)
      simp [hid]
    | cons first taken =>
      obtain ⟨hfirst, -⟩ := List.cons.inj (show state.id :: _ = first :: _ from hids)
      exact absurd (hfirst ▸ h) (htaken.fresh first List.mem_cons_self)
  | added _ hun _ => exact absurd h (hun.fresh _ List.mem_cons_self)

/-! ### Entering a call and a delivery -/

theorem outcome_enterCall (c : Call) (b : Builder) :
    outcome (enterCall c) b =
      if c.concurrency = 0 then (.error (.zeroConcurrency c.function.id), b)
      else outcome (append (invokeState b.options b.path.current c.function)) b := by
  by_cases h : c.concurrency = 0 <;> simp [enterCall, outcome_bind, h]

theorem outcome_enterDeliver (d : Delivery) (b : Builder) :
    outcome (enterDeliver d) b =
      outcome (append ⟨Naming.sink, b.path.current, sinkKind d, []⟩) b := by
  rw [enterDeliver, outcome_bind, outcome_get]

theorem outcome_enterResult (b : Builder) :
    outcome enterResult b = (.ok (), { b with path := b.path.enterResult }) := rfl

/-! ### Leaving a fan-out -/

/-- The innermost open chain. -/
def innermost (b : Builder) : Chain :=
  b.chains.getLast?.getD []

/-- A builder after its innermost chain was taken away. -/
def closed (b : Builder) : Builder :=
  { b with chains := b.chains.dropLast, names := b.names.dropLast }

/-- A builder after its innermost chain left no trace. -/
def collapsed (b : Builder) (journal : List Log.Record) : Builder :=
  { b.closed with path := b.path.collapseScope, journal }

/-- A builder before the state of its innermost chain is added. -/
def popped (b : Builder) : Builder :=
  { b.closed with path := b.path.popScope }

/-- The state that the innermost chain becomes, given the call that opens it. -/
def fanOutState (b : Builder) (c : Call) : State :=
  ⟨Naming.fanOut (b.names.getLast?.getD ""), .root,
    .forEach (b.path.items?.getD .payload) c.concurrency b.innermost, []⟩

/-- What is told about a fan-out that left no state. -/
def elidedRecord (depth : Nat) : Log.Record :=
  ⟨.debug, logTarget, "empty fan-out elided", [("depth", .number depth)]⟩

/-- **Leaving a fan-out.** The level is gone whenever it existed, also when the hook refuses; the
path follows only when it does not refuse, or refuses the name of the state. -/
theorem outcome_leaveFanOut (depth : Nat) (nodes : List Node) (b : Builder) :
    outcome (leaveFanOut depth nodes) b =
      if b.chains.length < 2 then (.error .notOpened, b)
      else if b.innermost.isEmpty then
        (.ok (), b.collapsed (b.journal ++ [elidedRecord depth]))
      else match nodes.find? (!isStateless ·) with
        | some (.call c) =>
          outcome (append (b.fanOutState c) >>= fun _ => enterResult) b.popped
        | found => (.error (.fanOutHead (found.map Node.kind)), b.closed) := by
  simp only [leaveFanOut, outcome_bind, outcome_get]
  by_cases hlevels : b.chains.length < 2
  · simp [hlevels]
  simp only [hlevels, if_false, outcome_bind, outcome_set]
  by_cases hempty : b.innermost.isEmpty
  · rw [if_pos hempty, if_pos (show (b.chains.getLast?.getD []).isEmpty from hempty)]
    simp [tell, collapsed, closed, elidedRecord, outcome_bind]
  · rw [if_neg hempty, if_neg (show ¬(b.chains.getLast?.getD []).isEmpty from hempty)]
    rcases nodes.find? (!isStateless ·) with _ | (_ | _ | _ | _) <;>
      simp [outcome_bind, popped, closed, fanOutState, innermost]

/-! ### Leaving the pipeline -/

/-- The machine of a finished chain and the rule that starts it. -/
def artifact (b : Builder) (bus : Resource) : Compiled :=
  ⟨⟨b.options.machineName, b.innermost⟩, ⟨b.options.ruleName, bus, b.filter, b.options.machineName⟩⟩

/-- What is told about a finished machine. -/
def compiledRecord (compiled : Compiled) : Log.Record :=
  ⟨.info, logTarget, "pipeline compiled", [
    ("state_machine", .shown compiled.machine.name),
    ("states", .number compiled.machine.chain.allStates.length),
    ("start_at", .name (compiled.machine.chain.startAt.getD "")),
    ("detail_type", .names compiled.rule.detailTypes)]⟩

/-- **Leaving the pipeline.** An empty chain is lost although the hook refuses it. -/
theorem outcome_leavePipeline (b : Builder) :
    outcome leavePipeline b =
      if b.chains.length ≠ 1 then (.error (.levelsOpen (b.chains.length - 1)), b)
      else match b.source with
        | none => (.error .noSource, b)
        | some bus =>
          if b.innermost.isEmpty then (.error .noStates, { b with chains := [] })
          else (.ok (), { b with
            chains := []
            names := []
            filter := []
            output := some (b.artifact bus)
            journal := b.journal ++ [compiledRecord (b.artifact bus)] }) := by
  simp only [leavePipeline, outcome_bind, outcome_get]
  by_cases hlevels : b.chains.length ≠ 1
  · simp [hlevels]
  simp only [hlevels, if_false]
  rcases hsource : b.source with _ | bus
  · simp
  · simp only [outcome_bind, outcome_set]
    by_cases hempty : b.innermost.isEmpty
    · rw [if_pos hempty, if_pos (show (b.chains.getLast?.getD []).isEmpty from hempty)]
      simp
    · rw [if_neg hempty, if_neg (show ¬(b.chains.getLast?.getD []).isEmpty from hempty)]
      simp [tell, artifact, compiledRecord, innermost, outcome_bind]

end EventFlow.Machine.Builder
