import EventFlow.Manifest.Build
import EventFlow.Proofs.Refusal

/-!
# Manifests that are well formed

The first round of checks of a manifest looks at its structure alone. What it accepts is said here
without it (`Manifest.WellFormed`): the version, a name, a source followed by steps in between and
by one sink, and that everything the manifest names is declared. The check goes through the steps
one after the other and stops at the first fault; after the source it asks the same of every step
but the last one, so one induction along the steps is enough (`checkSteps_later_eq_ok_iff`).
-/

namespace EventFlow

theorem Registry.contains_iff {α : Type} {r : Registry α} {id : String} :
    r.contains id ↔ id ∈ r.ids := by
  simp [contains, get?, ids]

theorem Registry.exists_get?_of_mem {α : Type} {r : Registry α} {id : String} (h : id ∈ r.ids) :
    ∃ value, r.get? id = some value :=
  Option.isSome_iff_exists.mp (contains_iff.mpr h)

namespace Step

/-- Whether a step reads from the source. -/
def isSource : Step → Bool
  | source _ _ _ => true
  | _ => false

/-- Whether a step stands between the source and the sink. -/
def isInner : Step → Bool
  | join _ => true
  | lift _ => true
  | wrap => true
  | unit => true
  | _ => false

/-- Whether a step opens a fan-out. -/
def opens : Step → Bool
  | lift _ => true
  | wrap => true
  | _ => false

theorem isInner_iff {step : Step} :
    step.isInner ↔ step.isSource = false ∧ step.isSink = false := by
  cases step <;> simp [isInner, isSource, isSink]

theorem isSource_eq_false_of_isSink {step : Step} (h : step.isSink) : step.isSource = false := by
  cases step <;> simp_all [isSource, isSink]

/-- **Steps that lead from a source to a sink**: one source, steps in between, one sink. -/
def SourceToSink (steps : List Step) : Prop :=
  ∃ (bus typeName : String) (categories : List String) (inner : List Step) (sink : Step),
    steps = source bus typeName categories :: (inner ++ [sink]) ∧
      (∀ step ∈ inner, step.isInner) ∧ sink.isSink

end Step

namespace Manifest

/-- **What a step names is declared**: a bus, a function or a queue. -/
def Declares (m : Manifest) : Step → Prop
  | .source bus _ _ => bus ∈ m.eventBuses.ids
  | .join function => function ∈ m.functions.ids
  | .lift lift => lift.function ∈ m.functions.ids
  | .wrap => True
  | .unit => True
  | .toQueue queue => queue ∈ m.queues.ids
  | .toEventBus bus _ _ => bus ∈ m.eventBuses.ids

/-- **A well-formed manifest**: of the version that is read, with a name that shows, a declared
queue for failures if any, and steps that lead from one source to one sink and name what is
declared. -/
structure WellFormed (m : Manifest) : Prop where
  version : m.version = "1.0"
  name : ∃ c ∈ m.name.toList, Text.isBlank c = false
  deadLetter : ∀ id, m.deadLetterQueue = some id → id ∈ m.queues.ids
  steps : Step.SourceToSink m.steps
  declared : ∀ step ∈ m.steps, m.Declares step

variable {m : Manifest}

/-! ### The steps -/

theorem checkReferences_eq_ok_iff {position : Nat} {step : Step} :
    m.checkReferences position step = .ok () ↔ m.Declares step := by
  cases step <;> simp [checkReferences, Declares, ← Registry.contains_iff]

theorem checkPosition_eq_ok_iff {position : Nat} {step : Step} :
    checkPosition position step = .ok () ↔ (step.isSource ↔ position = 1) := by
  cases step <;> simp [checkPosition, Step.isSource]

/-- The check of a step: it stands in its place, it is no sink unless it is the last one, and what
it names is declared. -/
theorem checkSteps_cons_eq_ok_iff {position : Nat} {step : Step} {steps : List Step} :
    m.checkSteps position (step :: steps) = .ok () ↔
      (step.isSource ↔ position = 1) ∧ (steps ≠ [] → step.isSink = false) ∧ m.Declares step ∧
        m.checkSteps (position + 1) steps = .ok () := by
  rw [checkSteps, check_bind_eq_ok_iff, checkPosition_eq_ok_iff]
  refine and_congr_right fun _ => ?_
  have hrest : (m.checkReferences position step >>= fun _ => m.checkSteps (position + 1) steps) =
      .ok () ↔ m.Declares step ∧ m.checkSteps (position + 1) steps = .ok () := by
    rw [check_bind_eq_ok_iff, checkReferences_eq_ok_iff]
  rcases steps with _ | ⟨next, steps⟩
  · simpa using hrest
  · simp only [refuse_bind_eq_ok_iff]
    simpa using fun _ => hrest

/-- **The check of the steps after the first one.** -/
theorem checkSteps_later_eq_ok_iff {position : Nat} {steps : List Step} (h : 1 < position) :
    m.checkSteps position steps = .ok () ↔
      (∀ step ∈ steps, step.isSource = false) ∧ (∀ step ∈ steps.dropLast, step.isSink = false) ∧
        ∀ step ∈ steps, m.Declares step := by
  induction steps generalizing position with
  | nil => simp [checkSteps]
  | cons step steps ih =>
    have hplace : (step.isSource ↔ position = 1) ↔ step.isSource = false := by
      have hne : position ≠ 1 := by omega
      simp [hne]
    rw [checkSteps_cons_eq_ok_iff, ih (by omega), hplace]
    cases steps with
    | nil => simp
    | cons next steps =>
      simp only [List.dropLast_cons_cons, List.forall_mem_cons]
      constructor
      · rintro ⟨hsource, hsink, hstep, hsources, hsinks, hsteps⟩
        exact ⟨⟨hsource, hsources⟩, ⟨hsink (List.cons_ne_nil _ _), hsinks⟩, hstep, hsteps⟩
      · rintro ⟨⟨hsource, hsources⟩, ⟨hsink, hsinks⟩, hstep, hsteps⟩
        exact ⟨hsource, fun _ => hsink, hstep, hsources, hsinks, hsteps⟩

/-- Steps that lead from the first one to a sink at the end. -/
theorem exists_inner_iff {steps : List Step} :
    ((∀ step ∈ steps, step.isSource = false) ∧ (∀ step ∈ steps.dropLast, step.isSink = false)) ∧
        steps.getLast?.any Step.isSink ↔
      ∃ inner sink, steps = inner ++ [sink] ∧ (∀ step ∈ inner, step.isInner) ∧ sink.isSink := by
  constructor
  · rintro ⟨⟨hsource, hinner⟩, hlast⟩
    rcases List.eq_nil_or_concat steps with rfl | ⟨inner, sink, rfl⟩
    · simp at hlast
    · rw [List.concat_eq_append] at hsource hinner hlast ⊢
      rw [List.dropLast_concat] at hinner
      refine ⟨inner, sink, rfl, fun step hstep => ?_, by simpa using hlast⟩
      exact Step.isInner_iff.mpr ⟨hsource step (by simp [hstep]), hinner step hstep⟩
  · rintro ⟨inner, sink, rfl, hinner, hsink⟩
    refine ⟨⟨fun step hstep => ?_, fun step hstep => ?_⟩, by simpa using hsink⟩
    · rcases List.mem_append.mp hstep with hbefore | hlast
      · exact (Step.isInner_iff.mp (hinner step hbefore)).1
      · rw [List.mem_singleton.mp hlast]
        exact Step.isSource_eq_false_of_isSink hsink
    · rw [List.dropLast_concat] at hstep
      exact (Step.isInner_iff.mp (hinner step hstep)).2

/-- **The check of all steps**, which ends with a look at the last one. -/
theorem checkSteps_one_eq_ok_iff {steps : List Step} :
    m.checkSteps 1 steps = .ok () ∧ steps.getLast?.any Step.isSink ↔
      Step.SourceToSink steps ∧ ∀ step ∈ steps, m.Declares step := by
  cases steps with
  | nil => simp [Step.SourceToSink]
  | cons first later =>
    rw [checkSteps_cons_eq_ok_iff, checkSteps_later_eq_ok_iff (by omega), List.forall_mem_cons]
    cases hfirst : first.isSource with
    | false =>
      refine iff_of_false (fun h => by simp at h) ?_
      rintro ⟨⟨bus, typeName, categories, inner, sink, hsteps, -⟩, -⟩
      obtain ⟨rfl, -⟩ := List.cons.inj hsteps
      simp [Step.isSource] at hfirst
    | true =>
      obtain ⟨bus, typeName, categories, rfl⟩ :
          ∃ bus typeName categories, first = .source bus typeName categories := by
        cases first <;> simp_all [Step.isSource]
      have hlast : (Step.source bus typeName categories :: later).getLast?.any Step.isSink =
          later.getLast?.any Step.isSink := by
        cases later <;> simp [Step.isSink]
      have hparts := @exists_inner_iff later
      rw [hlast]
      constructor
      · rintro ⟨⟨-, -, hfirst, hsource, hinner, hdeclared⟩, hsink⟩
        obtain ⟨inner, sink, rfl, hall, hsink⟩ := hparts.mp ⟨⟨hsource, hinner⟩, hsink⟩
        exact ⟨⟨bus, typeName, categories, inner, sink, rfl, hall, hsink⟩, hfirst, hdeclared⟩
      · rintro ⟨⟨bus', typeName', categories', inner, sink, hsteps, hall, hsink⟩, hfirst, hdeclared⟩
        obtain ⟨-, rfl⟩ := List.cons.inj hsteps
        obtain ⟨⟨hsource, hinner⟩, hsink⟩ := hparts.mpr ⟨inner, sink, rfl, hall, hsink⟩
        exact ⟨⟨by simp, fun _ => rfl, hfirst, hsource, hinner, hdeclared⟩, hsink⟩

/-! ### The whole manifest -/

theorem isBlankText_eq_false_iff {text : String} :
    Text.isBlankText text = false ↔ ∃ c ∈ text.toList, Text.isBlank c = false := by
  simp [Text.isBlankText]

theorem validate_eq_ok_iff_checks :
    m.validate = .ok () ↔
      m.version = "1.0" ∧ Text.isBlankText m.name = false ∧ m.steps ≠ [] ∧
        (∀ id, m.deadLetterQueue = some id → id ∈ m.queues.ids) ∧
        m.checkSteps 1 m.steps = .ok () ∧ m.steps.getLast?.any Step.isSink := by
  have hsteps : (m.checkSteps 1 m.steps >>= fun _ =>
        if !m.steps.getLast?.any Step.isSink then throw .missingSink else pure ()) = .ok () ↔
      m.checkSteps 1 m.steps = .ok () ∧ m.steps.getLast?.any Step.isSink := by
    rw [check_bind_eq_ok_iff, refuse_eq_ok_iff, Bool.not_eq_true', Bool.not_eq_false]
  simp only [validate, refuse_bind_eq_ok_iff]
  rcases m.deadLetterQueue with _ | id
  · simp only [hsteps]
    simp [supportedVersion]
  · simp only [refuse_bind_eq_ok_iff, hsteps]
    simp [supportedVersion, Registry.contains_iff]

/-- **The first round of checks accepts exactly the well-formed manifests.** -/
theorem validate_eq_ok_iff : m.validate = .ok () ↔ m.WellFormed := by
  have hsteps := @checkSteps_one_eq_ok_iff m m.steps
  rw [validate_eq_ok_iff_checks, isBlankText_eq_false_iff]
  constructor
  · rintro ⟨hversion, hname, -, hdead, hcheck⟩
    obtain ⟨hshape, hdeclared⟩ := hsteps.mp hcheck
    exact ⟨hversion, hname, hdead, hshape, hdeclared⟩
  · rintro ⟨hversion, hname, hdead, hshape, hdeclared⟩
    refine ⟨hversion, hname, ?_, hdead, hsteps.mpr ⟨hshape, hdeclared⟩⟩
    obtain ⟨bus, typeName, categories, inner, sink, hsteps, -⟩ := hshape
    simp [hsteps]

instance (m : Manifest) : Decidable m.WellFormed :=
  decidable_of_iff (m.validate.isOk = true) (by
    rw [← validate_eq_ok_iff]
    rcases m.validate with e | _ <;> simp [Except.isOk, Except.toBool])

end Manifest

end EventFlow
