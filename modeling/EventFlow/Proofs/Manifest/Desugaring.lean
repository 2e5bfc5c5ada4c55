import EventFlow.Proofs.Manifest.Agreement
import EventFlow.Proofs.Manifest.Typing
import Mathlib.Data.List.Basic

/-!
# Lifting and closing, spelled out

Two things in a manifest are short for others. Lifting a function one element at a time is going on
with each element (`wrap`) and applying the function there (`join`); and a sink closes the fan-outs
that are open before it, as so many `unit` steps would. `Manifest.desugar` writes both out.

The steps move by this, so nothing that a refusal says about a position survives, but its code does.
The three rounds of a build are compared one by one.

* **Structure.** What is wrong with a step, up to positions, is a matter of the step and of whether
  it is the first or the last one (`fault`). The steps that are put in are always in order.
* **Types.** What flows out of a step flows out of what it is short for, and where the one has no
  type the other has none, for a reason with the same code.
* **Lowering.** The levels after a step and after what it is short for are the same; the closings at
  the end empty them, so that the sink finds nothing left to close.
-/

namespace EventFlow

namespace Step

/-- **What a step is short for**: lifting a function over one element at a time is going on with
each element and applying the function to it. -/
def desugar : Step → List Step
  | lift l => if l.concurrency = 1 then [wrap, join l.function] else [lift l]
  | step => [step]

/-- The number of fan-outs that some steps leave open. -/
def leftOpen (steps : List Step) : Nat :=
  steps.countP opens - steps.count unit

/-- **Steps spelled out**: each step is replaced by what it is short for, and the fan-outs that a
sink at the end closes are closed before it. -/
def desugarAll (steps : List Step) : List Step :=
  if steps.getLast?.any isSink then
    steps.dropLast.flatMap desugar ++ List.replicate (leftOpen steps) unit ++ steps.getLast?.toList
  else steps.flatMap desugar

/-- Neither a source nor a sink opens or closes a fan-out. -/
theorem leftOpen_source_concat {bus typeName : String} {categories : List String}
    {inner : List Step} {sink : Step} (h : sink.isSink) :
    leftOpen (source bus typeName categories :: (inner ++ [sink])) = leftOpen inner := by
  have hopens : sink.opens = false ∧ sink ≠ unit := by
    cases sink <;> simp_all [isSink, opens]
  have hsource : (source bus typeName categories).opens = false := rfl
  simp [leftOpen, hopens, hsource]

/-- A step is short for itself, or it lifts a function one element at a time. -/
theorem desugar_cases (step : Step) :
    step.desugar = [step] ∨
      ∃ l, step = lift l ∧ l.concurrency = 1 ∧ step.desugar = [wrap, join l.function] := by
  cases step with
  | lift l =>
    by_cases hone : l.concurrency = 1
    · exact .inr ⟨l, rfl, hone, by simp [desugar, hone]⟩
    · exact .inl (by simp [desugar, hone])
  | _ => exact .inl rfl

theorem isEmpty_flatMap_desugar_append (steps : List Step) {later later' : List Step}
    (h : later'.isEmpty = later.isEmpty) :
    (steps.flatMap desugar ++ later').isEmpty = (steps ++ later).isEmpty := by
  cases steps with
  | nil => exact h
  | cons step steps => rcases desugar_cases step with hsame | ⟨l, -, -, hlift⟩ <;> simp [*]

theorem desugarAll_concat {inner : List Step} {sink : Step} (h : sink.isSink) :
    desugarAll (inner ++ [sink]) =
      inner.flatMap desugar ++ List.replicate (leftOpen (inner ++ [sink])) unit ++ [sink] := by
  simp [desugarAll, h]

theorem desugarAll_of_not_any {steps : List Step} (h : ¬steps.getLast?.any isSink) :
    desugarAll steps = steps.flatMap desugar := by
  simp [desugarAll, h]

/-- Spelling steps out changes nothing about whether a sink comes last. -/
theorem any_isSink_desugarAll (steps : List Step) :
    (desugarAll steps).getLast?.any isSink = steps.getLast?.any isSink := by
  rcases List.eq_nil_or_concat steps with rfl | ⟨inner, last, rfl⟩
  · rfl
  · rw [List.concat_eq_append]
    by_cases hsink : last.isSink
    · simp [desugarAll_concat hsink]
    · rw [desugarAll_of_not_any (by simpa using hsink), List.flatMap_append]
      rcases desugar_cases last with hsame | ⟨l, rfl, -, hlift⟩
      · simp [hsame]
      · simp [hlift, isSink]

theorem isEmpty_desugarAll (steps : List Step) : (desugarAll steps).isEmpty = steps.isEmpty := by
  rcases List.eq_nil_or_concat steps with rfl | ⟨inner, last, rfl⟩
  · rfl
  · rw [List.concat_eq_append]
    by_cases hsink : last.isSink
    · rw [desugarAll_concat hsink, List.append_assoc]
      exact isEmpty_flatMap_desugar_append inner (by simp)
    · rw [desugarAll_of_not_any (by simpa using hsink)]
      simpa using isEmpty_flatMap_desugar_append (inner ++ [last]) (rfl : [].isEmpty = [].isEmpty)

end Step

namespace Manifest

/-- **A manifest spelled out.** -/
def desugar (m : Manifest) : Manifest :=
  { m with steps := Step.desugarAll m.steps }

/-! ### Structure -/

/-- The code under which something is refused, if it is. -/
def verdict {α : Type} : Except ManifestError α → Option String
  | .ok _ => none
  | .error e => some e.diagnostic.code

theorem verdict_bind {α : Type} (x : Except ManifestError Unit)
    (f : Unit → Except ManifestError α) :
    verdict (x >>= f) = (verdict x).or (verdict (f ())) := by
  rcases x with e | ⟨⟩ <;> rfl

theorem verdict_refuse {α : Type} {c : Prop} [Decidable c] (e : ManifestError)
    (f : Unit → Except ManifestError α) (x : Except ManifestError α) :
    verdict (if c then throw e >>= f else x) = if c then some e.diagnostic.code else verdict x := by
  split <;> rfl

variable {m : Manifest}

/-- **What is wrong with a step**, given whether it is the first and whether it is the last one. -/
def fault (m : Manifest) (isFirst isLast : Bool) (step : Step) : Option String :=
  if step.isSource ≠ isFirst ∨ step.isSink ∧ !isLast then some "PIPE-MAN-006"
  else verdict (m.checkReferences 0 step)

/-- What is wrong with the first step for which something is. -/
def firstFault (m : Manifest) (isFirst : Bool) : List Step → Option String
  | [] => none
  | step :: steps => (m.fault isFirst steps.isEmpty step).or (m.firstFault false steps)

theorem verdict_checkReferences (position : Nat) (step : Step) :
    verdict (m.checkReferences position step) = verdict (m.checkReferences 0 step) := by
  have hcode (position : Nat) (kind id : String) :
      (ManifestError.unknownResource position kind id).diagnostic.code = "PIPE-MAN-005" := rfl
  cases step <;> simp only [checkReferences] <;> split <;> simp only [verdict, hcode]

theorem verdict_checkPosition (position : Nat) (step : Step) :
    verdict (checkPosition position step) =
      if step.isSource ≠ decide (position = 1) then some "PIPE-MAN-006" else none := by
  cases step <;> by_cases h : position = 1 <;>
    simp [checkPosition, Step.isSource, h, verdict] <;> rfl

/-- **The check of the steps is refused under the code of the first fault.** -/
theorem verdict_checkSteps {position : Nat} (h : 0 < position) (steps : List Step) :
    verdict (m.checkSteps position steps) = m.firstFault (decide (position = 1)) steps := by
  induction steps generalizing position with
  | nil => rfl
  | cons step steps ih =>
    have hnext : decide (position + 1 = 1) = false := by simp; omega
    have hrest : verdict (m.checkReferences position step >>= fun _ =>
        m.checkSteps (position + 1) steps) =
          (verdict (m.checkReferences 0 step)).or (m.firstFault false steps) := by
      rw [verdict_bind, verdict_checkReferences, ih (Nat.succ_pos _), hnext]
    rw [checkSteps, verdict_bind, verdict_checkPosition, firstFault, fault]
    rcases steps with _ | ⟨next, steps⟩
    · by_cases hplace : step.isSource = decide (position = 1)
      · simpa [hplace] using hrest
      · simp [hplace]
    · simp only [verdict_refuse, hrest]
      by_cases hplace : step.isSource = decide (position = 1)
      · cases step.isSink <;>
          simp [hplace, ManifestError.diagnostic, ManifestError.diagnostic.invalid]
      · simp [hplace]

/-- A step in between is at fault if it stands first, or if it names what is not declared. -/
theorem fault_of_isInner {step : Step} (h : step.isInner) (isFirst isLast : Bool) :
    m.fault isFirst isLast step =
      if isFirst then some "PIPE-MAN-006" else verdict (m.checkReferences 0 step) := by
  obtain ⟨hsource, hsink⟩ := Step.isInner_iff.mp h
  cases isFirst <;> simp [fault, hsource, hsink]

/-- What is declared is not touched by spelling the steps out. -/
theorem firstFault_desugar (m : Manifest) (isFirst : Bool) (steps : List Step) :
    m.desugar.firstFault isFirst steps = m.firstFault isFirst steps := by
  induction steps generalizing isFirst with
  | nil => rfl
  | cons step steps ih =>
    rw [firstFault, firstFault, ih]
    rfl

/-- **What a step is short for is at fault when the step is.** -/
theorem firstFault_desugar_append (isFirst : Bool) (step : Step) {later later' : List Step}
    (hempty : later'.isEmpty = later.isEmpty)
    (hlater : m.firstFault false later' = m.firstFault false later) :
    m.firstFault isFirst (step.desugar ++ later') = m.firstFault isFirst (step :: later) := by
  rcases step.desugar_cases with hsame | ⟨l, rfl, -, hlift⟩
  · rw [hsame, List.singleton_append, firstFault, firstFault, hempty, hlater]
  · rw [hlift, List.cons_append, List.singleton_append, firstFault, firstFault, firstFault, hlater,
      fault_of_isInner rfl, fault_of_isInner rfl, fault_of_isInner rfl]
    cases isFirst <;> simp [checkReferences, verdict]

theorem firstFault_flatMap_append (isFirst : Bool) (steps : List Step) {later later' : List Step}
    (hempty : later'.isEmpty = later.isEmpty)
    (hlater : ∀ isFirst, m.firstFault isFirst later' = m.firstFault isFirst later) :
    m.firstFault isFirst (steps.flatMap Step.desugar ++ later') =
      m.firstFault isFirst (steps ++ later) := by
  induction steps generalizing isFirst with
  | nil => exact hlater isFirst
  | cons step steps ih =>
    rw [List.flatMap_cons, List.append_assoc, List.cons_append]
    exact firstFault_desugar_append isFirst step
      (Step.isEmpty_flatMap_desugar_append steps hempty) (ih false)

/-- Nothing is wrong with closing fan-outs before a sink. -/
theorem firstFault_replicate_append (isFirst : Bool) (n : Nat) {sink : Step} (h : sink.isSink) :
    m.firstFault isFirst (List.replicate n .unit ++ [sink]) = m.firstFault isFirst [sink] := by
  induction n generalizing isFirst with
  | zero => rfl
  | succ n ih =>
    have hsource := Step.isSource_eq_false_of_isSink h
    rw [List.replicate_succ, List.cons_append, firstFault, ih, fault_of_isInner rfl]
    cases isFirst <;> simp [firstFault, fault, hsource, checkReferences, verdict]

theorem firstFault_desugarAll (isFirst : Bool) (steps : List Step) :
    m.firstFault isFirst (Step.desugarAll steps) = m.firstFault isFirst steps := by
  by_cases hany : steps.getLast?.any Step.isSink
  · rcases List.eq_nil_or_concat steps with rfl | ⟨inner, sink, rfl⟩
    · rfl
    · rw [List.concat_eq_append] at hany ⊢
      have hsink : sink.isSink := by simpa using hany
      rw [Step.desugarAll_concat hsink, List.append_assoc]
      exact firstFault_flatMap_append isFirst inner (by simp)
        fun isFirst => firstFault_replicate_append isFirst _ hsink
  · rw [Step.desugarAll_of_not_any hany]
    have hsteps := @firstFault_flatMap_append m isFirst steps [] [] rfl fun _ => rfl
    simpa using hsteps

/-- **Both forms of a manifest pass the check of the structure, or both fail under one code.** -/
theorem verdict_validate_desugar (m : Manifest) :
    verdict m.desugar.validate = verdict m.validate := by
  have hchecks : verdict (m.desugar.checkSteps 1 m.desugar.steps) =
      verdict (m.checkSteps 1 m.steps) := by
    rw [verdict_checkSteps Nat.one_pos, verdict_checkSteps Nat.one_pos]
    exact (m.firstFault_desugar _ _).trans (firstFault_desugarAll _ _)
  have hempty : m.desugar.steps.isEmpty = m.steps.isEmpty := Step.isEmpty_desugarAll _
  have hlast : m.desugar.steps.getLast?.any Step.isSink = m.steps.getLast?.any Step.isSink :=
    Step.any_isSink_desugarAll _
  have hsteps : verdict (m.desugar.checkSteps 1 m.desugar.steps >>= fun _ =>
      if !m.desugar.steps.getLast?.any Step.isSink then throw .missingSink else pure ()) =
        verdict (m.checkSteps 1 m.steps >>= fun _ =>
          if !m.steps.getLast?.any Step.isSink then throw .missingSink else pure ()) := by
    rw [verdict_bind, verdict_bind, hchecks, hlast]
  have hversion : m.desugar.version = m.version := rfl
  have hname : m.desugar.name = m.name := rfl
  have hqueues : m.desugar.queues = m.queues := rfl
  have hdead : m.desugar.deadLetterQueue = m.deadLetterQueue := rfl
  simp only [validate, verdict_refuse, hempty, hversion, hname, hdead, hqueues]
  rcases m.deadLetterQueue with _ | id
  · simp only [hsteps]
  · simp only [verdict_refuse, hsteps]

theorem verdict_validate_eq_none_iff : verdict m.validate = none ↔ m.WellFormed := by
  rw [← validate_eq_ok_iff]
  rcases m.validate with e | _ <;> simp [verdict]

theorem wellFormed_desugar_iff : m.desugar.WellFormed ↔ m.WellFormed := by
  rw [← verdict_validate_eq_none_iff, ← verdict_validate_eq_none_iff, verdict_validate_desugar]

/-- A manifest that is not well formed is refused in both forms under one code. -/
theorem exists_build_desugar_of_not_wellFormed {e : ManifestError} (hform : ¬m.WellFormed)
    (he : m.build = .error e) :
    ∃ e', m.desugar.build = .error e' ∧ e'.diagnostic.code = e.diagnostic.code := by
  have hverdict := m.verdict_validate_desugar
  rcases hvalid : m.validate with e₁ | _
  · obtain rfl : e = e₁ := Except.error.inj (he.symm.trans (build_of_validate_eq_error hvalid))
    rcases hvalid' : m.desugar.validate with e' | _
    · rw [hvalid, hvalid'] at hverdict
      exact ⟨e', build_of_validate_eq_error hvalid', Option.some.inj hverdict⟩
    · rw [hvalid, hvalid'] at hverdict
      cases hverdict
  · exact absurd (validate_eq_ok_iff.mp hvalid) hform

/-! ### Types -/

theorem types_desugar_iff {s : Option Typing} {step : Step} {t : Typing} :
    Types m.desugar s step t ↔ Types m s step t := by
  constructor
  · rintro (_ | hf | hf | _ | _)
    exacts [.source, .join hf, .lift hf, .wrap, .unit]
  · rintro (_ | hf | hf | _ | _)
    exacts [.source, .join hf, .lift hf, .wrap, .unit]

theorem TypesAll.append {s s' s'' : Option Typing} {steps steps' : List Step}
    (h : TypesAll m s steps s') (h' : TypesAll m s' steps' s'') :
    TypesAll m s (steps ++ steps') s'' := by
  induction h with
  | nil => exact h'
  | cons hstep _ ih => exact .cons hstep (ih h')

/-- **What a step is short for has the type of the step.** -/
theorem Types.desugar {s : Option Typing} {step : Step} {t : Typing} (h : Types m s step t) :
    TypesAll m.desugar s step.desugar (some t) := by
  rcases step.desugar_cases with hsame | ⟨l, rfl, -, hlift⟩
  · rw [hsame]
    exact .cons (types_desugar_iff.mpr h) .nil
  · rw [hlift]
    cases h with
    | lift hf => exact .cons .wrap (.cons (.join hf) .nil)

theorem TypesAll.desugar {s s' : Option Typing} {steps : List Step} (h : TypesAll m s steps s') :
    TypesAll m.desugar s (steps.flatMap Step.desugar) s' := by
  induction h with
  | nil => exact .nil
  | cons hstep _ ih => exact hstep.desugar.append ih

/-- **Where a step has no type, what it is short for has none**, and the code of the first step
without a type is the same. -/
theorem exists_first_of_not_types {s : Option Typing} {step : Step} (h : ∀ t, ¬Types m s step t) :
    ∃ before other after s', step.desugar = before ++ other :: after ∧
      TypesAll m.desugar s before s' ∧ (∀ t, ¬Types m.desugar s' other t) ∧
      other.untypedCode = step.untypedCode := by
  have hother (s : Option Typing) (step : Step) (h : ∀ t, ¬Types m s step t) (t : Typing) :
      ¬Types m.desugar s step t := fun ht => h t (types_desugar_iff.mp ht)
  rcases step.desugar_cases with hsame | ⟨l, rfl, -, hlift⟩
  · exact ⟨[], step, [], s, hsame, .nil, hother s step h, rfl⟩
  · by_cases hwrap : ∃ t, Types m s .wrap t
    · -- there are elements to go on with, so it is the function that does not take them
      obtain ⟨t, ht⟩ := hwrap
      refine ⟨[.wrap], .join l.function, [], some t, hlift,
        .cons (types_desugar_iff.mpr ht) .nil, hother _ _ fun t' ht' => ?_, rfl⟩
      cases ht with
      | wrap =>
        cases ht' with
        | join hf => exact h _ (.lift hf)
    · exact ⟨[], .wrap, [.join l.function], s, hlift, .nil,
        hother _ _ fun t ht => hwrap ⟨t, ht⟩, rfl⟩

/-- Along typed steps the open fan-outs are those that were opened and not closed. -/
theorem TypesAll.openFanOuts_add {t t' : Typing} {steps : List Step}
    (h : TypesAll m (some t) steps (some t')) :
    t'.openFanOuts + steps.count .unit = t.openFanOuts + steps.countP Step.opens := by
  induction steps generalizing t with
  | nil =>
    cases h
    rfl
  | cons step steps ih =>
    cases h with
    | cons hstep hsteps =>
      have hrest := ih hsteps
      cases hstep <;> simp [Step.opens, List.countP_cons] at hrest ⊢ <;> omega

/-- **The fan-outs that are open can be closed.** -/
theorem exists_typesAll_replicate (m : Manifest) (current : FlowType) (depth : Nat) :
    ∃ t, TypesAll m (some ⟨current, depth⟩) (List.replicate depth .unit) (some t) := by
  induction depth generalizing current with
  | zero => exact ⟨_, .nil⟩
  | succ depth ih =>
    obtain ⟨t, ht⟩ := ih (.list current)
    exact ⟨t, .cons .unit ht⟩

/-- The steps of a well-formed manifest before the sink, spelled out. -/
theorem WellFormed.dropLast_steps_desugar (h : m.WellFormed) :
    m.desugar.steps.dropLast =
      m.steps.dropLast.flatMap Step.desugar ++ List.replicate (Step.leftOpen m.steps) .unit := by
  obtain ⟨bus, typeName, categories, inner, sink, hsteps, -, hsink⟩ := h.steps
  have hall : m.desugar.steps = Step.desugarAll m.steps := rfl
  rw [hall, hsteps, ← List.cons_append, Step.desugarAll_concat hsink, List.dropLast_concat,
    List.dropLast_concat]

/-- **A manifest without a type is refused in both forms under one code.** -/
theorem exists_build_desugar_of_not_wellTyped (hform : m.WellFormed) (htype : ¬m.WellTyped) :
    ∃ e e', m.build = .error e ∧ m.desugar.build = .error e' ∧
      e'.diagnostic.code = e.diagnostic.code := by
  rcases typesAll_or_exists_first m none m.steps.dropLast with
    htyped | ⟨before, step, after, s, hsteps, hbefore, hstep⟩
  · exact absurd htyped htype
  obtain ⟨e, hbuild, -, hcode⟩ := build_of_not_types hform hsteps hbefore hstep
  obtain ⟨before', other, after', s', hstep_eq, hbefore', hother, hsame⟩ :=
    exists_first_of_not_types hstep
  have hsteps' : m.desugar.steps.dropLast = (before.flatMap Step.desugar ++ before') ++ other ::
      (after' ++ after.flatMap Step.desugar ++
        List.replicate (Step.leftOpen m.steps) .unit) := by
    rw [hform.dropLast_steps_desugar, hsteps, List.flatMap_append, List.flatMap_cons, hstep_eq]
    simp
  obtain ⟨e', hbuild', -, hcode'⟩ := build_of_not_types (wellFormed_desugar_iff.mpr hform) hsteps'
    (hbefore.desugar.append hbefore') hother
  exact ⟨e, e', hbuild, hbuild', by rw [hcode', hsame, hcode]⟩

/-! ### Lowering -/

/-- **Both forms of some steps do the same to the levels.** -/
theorem exists_operations_flatMap {steps : List Step} {ops : List Operation}
    (h : steps.map m.innerOperation? = ops.map some) :
    ∃ ops' : List Operation,
      (steps.flatMap Step.desugar).map m.desugar.innerOperation? = ops'.map some ∧
        ∀ l : Levels, ops'.foldlM Levels.apply l = ops.foldlM Levels.apply l := by
  have hsame : m.desugar.innerOperation? = m.innerOperation? := rfl
  rw [hsame]
  induction steps generalizing ops with
  | nil =>
    obtain rfl : ops = [] := by simpa using h.symm
    exact ⟨[], rfl, fun _ => rfl⟩
  | cons step steps ih =>
    obtain ⟨op, ops, rfl, hop, hrest⟩ := List.map_eq_cons_iff.mp h.symm
    obtain ⟨ops', hops', hfold⟩ := ih hrest.symm
    rcases step.desugar_cases with hone | ⟨l, rfl, hbound, hlift⟩
    · refine ⟨op :: ops', by simp [hone, ← hop, hops'], fun l => ?_⟩
      rw [List.foldlM_cons, List.foldlM_cons]
      exact congrArg _ (funext hfold)
    · obtain ⟨f, hf, rfl⟩ : ∃ f, m.functions.get? l.function = some f ∧
          Operation.lift ⟨⟨l.function, f.uri⟩, 1⟩ = op := by
        simpa [innerOperation?, hbound] using hop.symm
      refine ⟨.wrap :: .join ⟨⟨l.function, f.uri⟩, 1⟩ :: ops',
        by simp [hlift, innerOperation?, hf, hops'], fun levels => ?_⟩
      -- a fan-out opened with nothing in it, and the call put into it
      exact hfold (levels.openWith [.call ⟨⟨l.function, f.uri⟩, 1⟩])

theorem isSink_of_target? {sink : Step} {target : Sink} (h : m.target? sink = some target) :
    sink.isSink := by
  cases sink <;> simp_all [target?, Step.isSink]

namespace Reading

theorem leftOpen_steps (r : Reading m) : Step.leftOpen m.steps = r.flowing.openFanOuts := by
  have hcount : r.flowing.openFanOuts + r.inner.count .unit = 0 + r.inner.countP Step.opens :=
    r.typed.openFanOuts_add
  rw [r.steps_eq, Step.leftOpen_source_concat (isSink_of_target? r.target_eq), Step.leftOpen]
  omega

/-- The steps of a manifest that was read, spelled out. -/
theorem steps_desugar (r : Reading m) :
    m.desugar.steps = .source r.bus r.typeName r.categories ::
      ((r.inner.flatMap Step.desugar ++ List.replicate r.flowing.openFanOuts .unit) ++
        [r.sink]) := by
  have hall : m.desugar.steps = Step.desugarAll m.steps := rfl
  rw [hall, ← r.leftOpen_steps]
  nth_rewrite 1 [r.steps_eq]
  rw [← List.cons_append, Step.desugarAll_concat (isSink_of_target? r.target_eq), List.cons_append,
    ← r.steps_eq]
  rfl

theorem wellTyped_desugar (r : Reading m) : m.desugar.WellTyped := by
  obtain ⟨t, ht⟩ := exists_typesAll_replicate m.desugar r.flowing.current r.flowing.openFanOuts
  refine ⟨some t, ?_⟩
  rw [r.steps_desugar, ← List.cons_append, List.dropLast_concat]
  exact .cons .source (r.typed.desugar.append ht)

/-- **Both forms have one body.** -/
theorem pipeline_desugar (r : Reading m) (r' : Reading m.desugar) :
    r'.pipeline = .source ⟨r.resource, r.categories, (FlowType.parse r.typeName).text⟩ ::
      (r.levels.closeAll ++ [.deliver ⟨r.target, r'.flowing.current.text⟩]) := by
  obtain ⟨hsource, hlater⟩ := List.cons.inj (r'.steps_eq.symm.trans r.steps_desugar)
  obtain ⟨hinner, hlast⟩ := List.append_inj' hlater rfl
  obtain ⟨hbus, hname, hcategories⟩ := Step.source.inj hsource
  have hsink : r'.sink = r.sink := List.head_eq_of_cons_eq hlast
  have hresource : r'.resource = r.resource :=
    Option.some.inj (r'.resource_eq.symm.trans (hbus ▸ r.resource_eq))
  have htarget : r'.target = r.target :=
    Option.some.inj (r'.target_eq.symm.trans (hsink ▸ r.target_eq))
  -- the operations of the spelled-out steps leave no fan-out open
  obtain ⟨ops, hops, hfold⟩ := exists_operations_flatMap r.operations_eq
  have hoperations : r'.operations = ops ++ List.replicate r.levels.outer.length .unit := by
    refine List.map_injective_iff.mpr (fun _ _ => Option.some.inj) ?_
    rw [← r'.operations_eq, hinner, List.map_append, hops, List.map_append, r.length_outer]
    simp [innerOperation?]
  have hlevels : r'.levels = ⟨r.levels.closeAll, []⟩ := by
    have hall := r'.levels_eq
    rw [hoperations, List.foldlM_append, hfold, r.levels_eq] at hall
    exact Except.ok.inj (hall.symm.trans r.levels.foldlM_apply_replicate_unit)
  rw [pipeline, hresource, hcategories, hname, htarget, hlevels]
  rfl

end Reading

/-- **A manifest that builds**, and what its spelled-out form builds to. -/
theorem exists_build_desugar_of_build_eq_ok {p : Pipeline} (h : m.build = .ok p) :
    ∃ front sink name name', p = front ++ [.deliver ⟨sink, name⟩] ∧
      m.desugar.build = .ok (front ++ [.deliver ⟨sink, name'⟩]) ∧
      ((∀ bus source, sink ≠ .eventBus bus source []) → ∀ options,
        Machine.compile options (front ++ [.deliver ⟨sink, name'⟩]) =
          Machine.compile options p) := by
  obtain ⟨r, rfl⟩ := exists_reading_of_build_eq_ok h
  obtain ⟨hform, -⟩ := wellFormed_and_wellTyped_of_build_eq_ok h
  obtain ⟨r', hr'⟩ := exists_reading (wellFormed_desugar_iff.mpr hform) r.wellTyped_desugar
  rw [r.pipeline_desugar r'] at hr'
  refine ⟨.source ⟨r.resource, r.categories, (FlowType.parse r.typeName).text⟩ ::
    r.levels.closeAll, r.target, r.flowing.current.text, r'.flowing.current.text, rfl, hr',
    fun hsink options => ?_⟩
  have htells : ¬Machine.tellsType r.target := by
    rcases htarget : r.target with queue | ⟨bus, source, _ | ⟨category, categories⟩⟩
    · simp [Machine.tellsType]
    · exact absurd htarget (hsink bus source)
    · simp [Machine.tellsType]
  exact (Machine.compile_eq_iff_of_names options _ _ _ _ _ _ _ _).mpr
    (.inr ⟨fun _ => rfl, fun h => absurd h htells⟩)

/-- **Spelling a manifest out changes nothing that is built**, but for the name of the type that is
delivered. Both forms build, or both are refused under one code. If they build, the pipelines are
the same up to the delivery, which goes to the same sink, and they compile to the same result unless
the sink is a bus that tells the type of what it is given. -/
theorem build_desugar (m : Manifest) :
    ((∃ p, m.desugar.build = .ok p) ↔ ∃ p, m.build = .ok p) ∧
      (∀ e, m.build = .error e →
        ∃ e', m.desugar.build = .error e' ∧ e'.diagnostic.code = e.diagnostic.code) ∧
      ∀ p, m.build = .ok p → ∃ front sink name name',
        p = front ++ [.deliver ⟨sink, name⟩] ∧
        m.desugar.build = .ok (front ++ [.deliver ⟨sink, name'⟩]) ∧
        ((∀ bus source, sink ≠ .eventBus bus source []) → ∀ options,
          Machine.compile options (front ++ [.deliver ⟨sink, name'⟩]) =
            Machine.compile options p) := by
  have herror (e : ManifestError) (he : m.build = .error e) :
      ∃ e', m.desugar.build = .error e' ∧ e'.diagnostic.code = e.diagnostic.code := by
    by_cases hform : m.WellFormed
    · by_cases htype : m.WellTyped
      · obtain ⟨r, hr⟩ := exists_reading hform htype
        simp [hr] at he
      · obtain ⟨e₁, e', hbuild, hbuild', hcode⟩ :=
          exists_build_desugar_of_not_wellTyped hform htype
        obtain rfl : e = e₁ := Except.error.inj (he.symm.trans hbuild)
        exact ⟨e', hbuild', hcode⟩
    · exact exists_build_desugar_of_not_wellFormed hform he
  refine ⟨⟨?_, ?_⟩, herror, fun p hp => exists_build_desugar_of_build_eq_ok hp⟩
  · rintro ⟨p, hp⟩
    rcases hbuild : m.build with e | q
    · obtain ⟨e', he', -⟩ := herror e hbuild
      simp [he'] at hp
    · exact ⟨q, rfl⟩
  · rintro ⟨p, hp⟩
    obtain ⟨front, sink, name, name', -, hbuild, -⟩ := exists_build_desugar_of_build_eq_ok hp
    exact ⟨_, hbuild⟩

/-- A manifest that asks for quotes for each line of each order, and leaves both fan-outs to be
closed by the sink. -/
def quotes : Manifest where
  version := "1.0"
  name := "quotes"
  eventBuses := .ofList [("input", "bus:input")]
  queues := .ofList [("reply", "queue:reply")]
  functions := .ofList [("lines", ⟨"fn:lines", "Order", "[Line]"⟩),
    ("quote", ⟨"fn:quote", "Line", "Quote"⟩)]
  steps := [.source "input" "[Order]" [], .lift (.plain "lines"), .lift (.bounded "quote" (some 4)),
    .toQueue "reply"]

/-- What both forms of the manifest build, before they deliver it. -/
def quotesFront : Pipeline :=
  [.source ⟨⟨"input", "bus:input"⟩, [], "[Order]"⟩, .fanOut [.call ⟨⟨"lines", "fn:lines"⟩, 1⟩,
    .fanOut [.call ⟨⟨"quote", "fn:quote"⟩, 4⟩]]]

/-- The two forms deliver under two names, and compile to one result. -/
theorem build_quotes_desugar :
    quotes.build = .ok (quotesFront ++ [.deliver ⟨.queue ⟨"reply", "queue:reply"⟩, "Quote"⟩]) ∧
      quotes.desugar.steps = [.source "input" "[Order]" [], .wrap, .join "lines",
        .lift (.bounded "quote" (some 4)), .unit, .unit, .toQueue "reply"] ∧
      quotes.desugar.build =
        .ok (quotesFront ++ [.deliver ⟨.queue ⟨"reply", "queue:reply"⟩, "[[Quote]]"⟩]) ∧
      ∀ options, Machine.compile options
          (quotesFront ++ [.deliver ⟨.queue ⟨"reply", "queue:reply"⟩, "[[Quote]]"⟩]) =
        Machine.compile options
          (quotesFront ++ [.deliver ⟨.queue ⟨"reply", "queue:reply"⟩, "Quote"⟩]) := by
  have hform : quotes.WellFormed := by decide +kernel
  have htext : (FlowType.parse "[Order]").text = "[Order]" := by decide +kernel
  have hbuild : quotes.build =
      .ok (quotesFront ++ [.deliver ⟨.queue ⟨"reply", "queue:reply"⟩, "Quote"⟩]) := by
    have htranslate : quotes.translate 2 ⟨.parse "[Order]", 0⟩ [.lift (.plain "lines"),
        .lift (.bounded "quote" (some 4)), .toQueue "reply"] =
          .ok [.lift ⟨⟨"lines", "fn:lines"⟩, 1⟩, .lift ⟨⟨"quote", "fn:quote"⟩, 4⟩,
            .deliver ⟨.queue ⟨"reply", "queue:reply"⟩, "Quote"⟩] :=
      eq_ok_of_toOption_eq_some (by decide +kernel)
    rw [build_eq (validate_eq_ok_iff.mpr hform) rfl rfl, htranslate, htext]
    rfl
  have hsteps : quotes.desugar.steps = [.source "input" "[Order]" [], .wrap, .join "lines",
      .lift (.bounded "quote" (some 4)), .unit, .unit, .toQueue "reply"] := rfl
  have hbuild' : quotes.desugar.build =
      .ok (quotesFront ++ [.deliver ⟨.queue ⟨"reply", "queue:reply"⟩, "[[Quote]]"⟩]) := by
    have htranslate : quotes.desugar.translate 2 ⟨.parse "[Order]", 0⟩ [.wrap, .join "lines",
        .lift (.bounded "quote" (some 4)), .unit, .unit, .toQueue "reply"] =
          .ok [.wrap, .join ⟨⟨"lines", "fn:lines"⟩, 1⟩, .lift ⟨⟨"quote", "fn:quote"⟩, 4⟩, .unit,
            .unit, .deliver ⟨.queue ⟨"reply", "queue:reply"⟩, "[[Quote]]"⟩] :=
      eq_ok_of_toOption_eq_some (by decide +kernel)
    rw [build_eq (validate_eq_ok_iff.mpr (wellFormed_desugar_iff.mpr hform)) hsteps rfl, htranslate,
      htext]
    rfl
  obtain ⟨-, -, hboth⟩ := build_desugar quotes
  obtain ⟨front, sink, name, name', hfront, hdelivered, hcompile⟩ := hboth _ hbuild
  obtain ⟨-, hlast⟩ := List.append_inj' hfront rfl
  obtain ⟨rfl, -⟩ := Delivery.mk.inj (Node.deliver.inj (List.head_eq_of_cons_eq hlast))
  rw [← Except.ok.inj (hbuild'.symm.trans hdelivered)] at hcompile
  exact ⟨hbuild, hsteps, hbuild', hcompile (by simp)⟩

end Manifest

end EventFlow
