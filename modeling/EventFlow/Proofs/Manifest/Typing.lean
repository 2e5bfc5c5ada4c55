import EventFlow.Proofs.Manifest.WellFormed
import EventFlow.Proofs.Pipeline.Lowering
import EventFlow.Proofs.Pipeline.Outcome

/-!
# Manifests that are well typed

The second round of checks of a manifest follows what flows from step to step: a type, and the
number of fan-outs that are open. The rules are stated here as a relation (`Manifest.Types`), one
rule for each kind of step, and a manifest is well typed when its steps up to the sink can be typed
one after the other. Building a manifest is then compared with the two predicates.

* **Well formed and well typed: it builds.** The number of open fan-outs in the typing is the number
  of open levels when the operations are lowered, so no `unit` finds nothing to close and lowering,
  which counts for itself, has nothing to refuse. What is built is told by the parts that the steps
  were read into (`Reading`).
* **Well formed and not well typed: it is refused at the first step without a type**, with the
  position of that step (`ManifestError.untypedAt?`).
-/

namespace EventFlow

theorem eq_ok_of_toOption_eq_some {ε α : Type} {x : Except ε α} {a : α}
    (h : x.toOption = some a) : x = .ok a := by
  rcases x with e | b
  · cases h
  · exact congrArg Except.ok (Option.some.inj h)

namespace ManifestError

/-- The position of a step that has no type, if that is what is wrong. -/
def untypedAt? : ManifestError → Option Nat
  | typeMismatch step _ _ _ => some step
  | notAList step _ _ => some step
  | unitOutsideFanOut step => some step
  | _ => none

/-- A step without a type is told with one of two codes, and with its position. -/
theorem diagnostic_of_untypedAt? {e : ManifestError} {position : Nat}
    (h : e.untypedAt? = some position) :
    (e.diagnostic.code = "PIPE-COMP-001" ∨ e.diagnostic.code = "PIPE-COMP-002") ∧
      ∃ detail, e.diagnostic.message = "step " ++ toString position ++ ": " ++ detail := by
  cases e with
  | typeMismatch step function expected found =>
    obtain rfl : step = position := Option.some.inj h
    exact ⟨.inl rfl, _, rfl⟩
  | notAList step operation found =>
    obtain rfl : step = position := Option.some.inj h
    exact ⟨.inl rfl, _, rfl⟩
  | unitOutsideFanOut step =>
    obtain rfl : step = position := Option.some.inj h
    exact ⟨.inr rfl, _, rfl⟩
  | _ => simp [untypedAt?] at h

end ManifestError

/-- The code under which a step without a type is refused. -/
def Step.untypedCode : Step → String
  | unit => "PIPE-COMP-002"
  | _ => "PIPE-COMP-001"

namespace Manifest

/-! ### The rules -/

/-- **The typing of a step**: what flows into it, if anything, and what flows out of it. -/
inductive Types (m : Manifest) : Option Typing → Step → Typing → Prop
  /-- The source gives the type it names, with no fan-out open. -/
  | source {bus typeName : String} {categories : List String} :
      Types m none (.source bus typeName categories) ⟨.parse typeName, 0⟩
  /-- A function is applied to what flows. -/
  | join {id : String} {f : FunctionDecl} {depth : Nat} (hf : m.functions.get? id = some f) :
      Types m (some ⟨.parse f.input, depth⟩) (.join id) ⟨.parse f.output, depth⟩
  /-- A function is applied to each element of a list, in a new fan-out. -/
  | lift {l : Lift} {f : FunctionDecl} {depth : Nat}
      (hf : m.functions.get? l.function = some f) :
      Types m (some ⟨.list (.parse f.input), depth⟩) (.lift l) ⟨.parse f.output, depth + 1⟩
  /-- Each element of a list flows on, in a new fan-out. -/
  | wrap {element : FlowType} {depth : Nat} :
      Types m (some ⟨.list element, depth⟩) .wrap ⟨element, depth + 1⟩
  /-- What the innermost fan-out gives is collected in a list. -/
  | unit {element : FlowType} {depth : Nat} :
      Types m (some ⟨element, depth + 1⟩) .unit ⟨.list element, depth⟩

/-- The typing of steps one after the other. -/
inductive TypesAll (m : Manifest) : Option Typing → List Step → Option Typing → Prop
  | nil {t : Option Typing} : TypesAll m t [] t
  | cons {t t'' : Option Typing} {t' : Typing} {step : Step} {steps : List Step}
      (h : Types m t step t') (hs : TypesAll m (some t') steps t'') :
      TypesAll m t (step :: steps) t''

/-- **A well-typed manifest**: all its steps but the sink can be typed. -/
def WellTyped (m : Manifest) : Prop :=
  ∃ t, TypesAll m none m.steps.dropLast t

variable {m : Manifest}

theorem TypesAll.exists_some {t : Typing} {steps : List Step} {s : Option Typing}
    (h : TypesAll m (some t) steps s) : ∃ t', s = some t' := by
  induction steps generalizing t with
  | nil =>
    cases h
    exact ⟨t, rfl⟩
  | cons step steps ih =>
    cases h with
    | cons _ hs => exact ih hs

/-- **Steps can be typed, or there is a first one that cannot.** -/
theorem typesAll_or_exists_first (m : Manifest) (s : Option Typing) (steps : List Step) :
    (∃ s', TypesAll m s steps s') ∨
      ∃ before step after s', steps = before ++ step :: after ∧ TypesAll m s before s' ∧
        ∀ t, ¬Types m s' step t := by
  induction steps generalizing s with
  | nil => exact .inl ⟨s, .nil⟩
  | cons step steps ih =>
    by_cases hstep : ∃ t, Types m s step t
    · obtain ⟨t, ht⟩ := hstep
      rcases ih (some t) with ⟨s', hs⟩ | ⟨before, other, after, s', rfl, hbefore, hother⟩
      · exact .inl ⟨s', .cons ht hs⟩
      · exact .inr ⟨step :: before, other, after, s', rfl, .cons ht hbefore, hother⟩
    · exact .inr ⟨[], step, steps, s, rfl, .nil, fun t ht => hstep ⟨t, ht⟩⟩

/-! ### One step -/

/-- The operation of a step between the source and the sink, which no type is needed for. -/
def innerOperation? (m : Manifest) : Step → Option Operation
  | .join id => (m.functions.get? id).map fun f => .join ⟨⟨id, f.uri⟩, 1⟩
  | .lift l => (m.functions.get? l.function).map fun f =>
      .lift ⟨⟨l.function, f.uri⟩, l.concurrency⟩
  | .wrap => some .wrap
  | .unit => some .unit
  | _ => none

/-- Where a sink delivers to. -/
def target? (m : Manifest) : Step → Option Sink
  | .toQueue id => (m.queue? id).map .queue
  | .toEventBus id source categories => (m.eventBus? id).map fun bus =>
      .eventBus bus source categories
  | _ => none

/-- **A step that can be typed is an operation**, which moves the number of open fan-outs as the
typing says. -/
theorem operation_of_types {t t' : Typing} {step : Step} (h : Types m (some t) step t') :
    ∃ op, m.innerOperation? step = some op ∧
      (∀ position, m.operation position t step = .ok (op, t')) ∧
      (op = .unit → 0 < t.openFanOuts) ∧ t'.openFanOuts = op.depthAfter t.openFanOuts := by
  cases h with
  | @join id f depth hf =>
    refine ⟨.join ⟨⟨id, f.uri⟩, 1⟩, by simp [innerOperation?, hf], fun position => ?_, by simp, rfl⟩
    simp [operation, function, hf, Typing.apply, bind, Except.bind, pure, Except.pure]
  | @lift l f depth hf =>
    refine ⟨.lift ⟨⟨l.function, f.uri⟩, l.concurrency⟩, by simp [innerOperation?, hf],
      fun position => ?_, by simp, rfl⟩
    simp [operation, function, hf, Typing.element, FlowType.element?, Typing.apply, bind,
      Except.bind, pure, Except.pure]
  | wrap => exact ⟨.wrap, rfl, fun _ => rfl, by simp, rfl⟩
  | unit => exact ⟨.unit, rfl, fun _ => rfl, fun _ => Nat.succ_pos _, rfl⟩

/-- **A step that cannot be typed is refused**, with its position and its code. -/
theorem operation_of_not_types {t : Typing} {step : Step} (hinner : step.isInner)
    (hdeclared : m.Declares step) (h : ∀ t', ¬Types m (some t) step t') (position : Nat) :
    ∃ e, m.operation position t step = .error e ∧ e.untypedAt? = some position ∧
      e.diagnostic.code = step.untypedCode := by
  obtain ⟨current, depth⟩ := t
  cases step with
  | join id =>
    obtain ⟨f, hf⟩ := Registry.exists_get?_of_mem hdeclared
    have hne : FlowType.parse f.input ≠ current := by
      rintro rfl
      exact h _ (.join hf)
    refine ⟨.typeMismatch position id (.parse f.input) current, ?_, rfl, rfl⟩
    simp [operation, function, hf, Typing.apply, hne, bind, Except.bind]
  | lift l =>
    obtain ⟨f, hf⟩ := Registry.exists_get?_of_mem hdeclared
    cases current with
    | named name =>
      refine ⟨.notAList position "lift" (.named name), ?_, rfl, rfl⟩
      simp [operation, function, hf, Typing.element, FlowType.element?, bind, Except.bind]
    | list element =>
      have hne : FlowType.parse f.input ≠ element := by
        rintro rfl
        exact h _ (.lift hf)
      refine ⟨.typeMismatch position l.function (.parse f.input) element, ?_, rfl, rfl⟩
      simp [operation, function, hf, Typing.element, FlowType.element?, Typing.apply, hne, bind,
        Except.bind]
  | wrap =>
    cases current with
    | named name => exact ⟨.notAList position "wrap" (.named name), rfl, rfl, rfl⟩
    | list element => exact absurd .wrap (h ⟨element, depth + 1⟩)
  | unit =>
    cases depth with
    | zero => exact ⟨.unitOutsideFanOut position, rfl, rfl, rfl⟩
    | succ depth => exact absurd .unit (h ⟨.list current, depth⟩)
  | source => simp [Step.isInner] at hinner
  | toQueue => simp [Step.isInner] at hinner
  | toEventBus => simp [Step.isInner] at hinner

/-- **A sink delivers what flows into it**, under the name of its type. -/
theorem operation_of_isSink {sink : Step} (hsink : sink.isSink) (hdeclared : m.Declares sink) :
    ∃ target, m.target? sink = some target ∧ ∀ position t,
      m.operation position t sink = .ok (.deliver ⟨target, t.current.text⟩, t) := by
  cases sink with
  | toQueue id =>
    obtain ⟨uri, huri⟩ := Registry.exists_get?_of_mem hdeclared
    refine ⟨.queue ⟨id, uri⟩, by simp [target?, queue?, huri], fun position t => ?_⟩
    simp [operation, queue, queue?, huri, bind, Except.bind, pure, Except.pure]
  | toEventBus id source categories =>
    obtain ⟨uri, huri⟩ := Registry.exists_get?_of_mem hdeclared
    refine ⟨.eventBus ⟨id, uri⟩ source categories, by simp [target?, eventBus?, huri],
      fun position t => ?_⟩
    simp [operation, eventBus, eventBus?, huri, bind, Except.bind, pure, Except.pure]
  | _ => simp [Step.isSink] at hsink

/-! ### All steps -/

/-- The operations of the steps from a position on, and nothing told about them. -/
def translate (m : Manifest) (position : Nat) (t : Typing) :
    List Step → Except ManifestError (List Operation)
  | [] => .ok []
  | step :: steps =>
    match m.operation position t step with
    | .error e => .error e
    | .ok (op, t') => (m.translate (position + 1) t' steps).map (op :: ·)

/-- What a build tells on the way does not change what comes out. -/
theorem outcome_operations (position : Nat) (t : Typing) (steps : List Step)
    (journal : List Log.Record) :
    (outcome (m.operations position t steps) journal).1 = m.translate position t steps := by
  induction steps generalizing position t journal with
  | nil => rfl
  | cons step steps ih =>
    have hlift : outcome (operations.liftExcept (m.operation position t step)) journal =
        (m.operation position t step, journal) := rfl
    rw [operations, outcome_bind, hlift, translate]
    rcases m.operation position t step with e | ⟨op, t'⟩
    · rfl
    · -- the step is told, and the rest goes on from a longer journal
      obtain ⟨journal', htell⟩ : ∃ journal', outcome (tellTyped position step t') journal =
          (.ok (), journal') := ⟨_, rfl⟩
      have hrest := ih (position + 1) t' journal'
      dsimp only
      rw [outcome_bind_ok htell, outcome_bind, ← hrest]
      rcases outcome (m.operations (position + 1) t' steps) journal' with ⟨e | ops, _⟩
      · rfl
      · rfl

/-- **Steps that can be typed are operations that fit**, whatever comes after them. -/
theorem translate_of_typesAll {t t' : Typing} {steps : List Step}
    (h : TypesAll m (some t) steps (some t')) :
    ∃ ops, steps.map m.innerOperation? = ops.map some ∧ Operation.Fit t.openFanOuts ops ∧
      ∀ position later, m.translate position t (steps ++ later) =
        (m.translate (position + steps.length) t' later).map (ops ++ ·) := by
  induction steps generalizing t with
  | nil =>
    cases h
    refine ⟨[], rfl, trivial, fun position later => ?_⟩
    rw [List.nil_append, List.length_nil, Nat.add_zero]
    rcases m.translate position t' later with e | ops <;> rfl
  | cons step steps ih =>
    cases h with
    | @cons _ _ t₁ _ _ hstep hsteps =>
      obtain ⟨op, hop, htranslate, hunit, hdepth⟩ := operation_of_types hstep
      obtain ⟨ops, hops, hfit, hrest⟩ := ih hsteps
      refine ⟨op :: ops, by simp [hop, hops], ⟨hunit, hdepth ▸ hfit⟩, fun position later => ?_⟩
      rw [List.cons_append, translate, htranslate]
      dsimp only
      rw [hrest, List.length_cons, Nat.add_right_comm, Nat.add_assoc]
      rcases m.translate (position + (steps.length + 1)) t' later with e | ops'
      · rfl
      · rfl

/-! ### Building -/

/-- The composition of a manifest: its source, and the operations of the steps after it. -/
theorem outcome_compose {bus typeName : String} {categories : List String} {later : List Step}
    {resource : Resource} (hsteps : m.steps = .source bus typeName categories :: later)
    (hbus : m.eventBus? bus = some resource) (journal : List Log.Record) :
    (outcome m.compose journal).1 = (m.translate 2 ⟨.parse typeName, 0⟩ later).map fun ops =>
      ⟨⟨resource, categories, (FlowType.parse typeName).text⟩, ops⟩ := by
  have hlift : outcome (operations.liftExcept (m.eventBus 1 bus)) journal =
      (.ok resource, journal) := by
    rw [eventBus, hbus]
    rfl
  obtain ⟨journal', htell⟩ : ∃ journal', outcome (tellTyped 1
      (.source resource.id typeName categories) { current := .parse typeName }) journal =
        (.ok (), journal') := ⟨_, rfl⟩
  rw [compose, hsteps]
  dsimp only
  rw [outcome_bind_ok hlift, outcome_bind_ok htell, outcome_bind,
    ← outcome_operations 2 _ _ journal']
  rcases outcome (m.operations 2 { current := .parse typeName } later) journal' with ⟨e | ops, _⟩
  · rfl
  · rfl

/-- A manifest whose structure is accepted is composed and lowered. -/
theorem build_eq_lower (hvalid : m.validate = .ok ()) :
    m.build = match (outcome m.compose []).1 with
      | .error e => .error e
      | .ok composition => composition.lower.mapError .composition := by
  have hlift : outcome (operations.liftExcept m.validate) [] = (.ok (), []) := by
    rw [hvalid]
    rfl
  have hbuild : m.build = (outcome (m.compose >>= fun composition =>
      operations.liftExcept (composition.lower.mapError .composition)) []).1 :=
    congrArg Prod.fst (outcome_bind_ok hlift)
  rw [hbuild, outcome_bind]
  rcases outcome m.compose [] with ⟨e | composition, journal⟩
  · rfl
  · rfl

/-- **Building goes through three rounds**: the checks of the structure, the operations of the steps
after the source, and lowering. -/
theorem build_eq {bus typeName : String} {categories : List String} {later : List Step}
    {resource : Resource} (hvalid : m.validate = .ok ())
    (hsteps : m.steps = .source bus typeName categories :: later)
    (hbus : m.eventBus? bus = some resource) :
    m.build = match m.translate 2 ⟨.parse typeName, 0⟩ later with
      | .error e => .error e
      | .ok ops => (Composition.lower
          ⟨⟨resource, categories, (FlowType.parse typeName).text⟩, ops⟩).mapError .composition := by
  rw [build_eq_lower hvalid, outcome_compose hsteps hbus]
  rcases m.translate 2 ⟨.parse typeName, 0⟩ later with e | ops
  · rfl
  · rfl

/-- A manifest whose structure is refused is refused for that reason. -/
theorem build_of_validate_eq_error {e : ManifestError} (h : m.validate = .error e) :
    m.build = .error e := by
  have hvalid : (outcome (operations.liftExcept m.validate) []).1 = .error e := h
  exact outcome_bind_error hvalid

/-- **The parts that a manifest is read into** when it is well formed and well typed. -/
structure Reading (m : Manifest) where
  bus : String
  typeName : String
  categories : List String
  /-- The steps between the source and the sink. -/
  inner : List Step
  sink : Step
  steps_eq : m.steps = .source bus typeName categories :: (inner ++ [sink])
  /-- The bus that the source reads from. -/
  resource : Resource
  resource_eq : m.eventBus? bus = some resource
  /-- What flows into the sink. -/
  flowing : Typing
  typed : TypesAll m (some ⟨.parse typeName, 0⟩) inner (some flowing)
  /-- The operations of the steps in between. -/
  operations : List Operation
  operations_eq : inner.map m.innerOperation? = operations.map some
  /-- What the operations make of nothing. -/
  levels : Levels
  levels_eq : operations.foldlM Levels.apply {} = .ok levels
  tokens_eq : levels.tokens = Operation.listing 0 operations
  /-- Where the sink delivers to. -/
  target : Sink
  target_eq : m.target? sink = some target

/-- **The typing and the lowering count the same open fan-outs.** -/
theorem TypesAll.length_outer {t t' : Typing} {steps : List Step} {ops : List Operation}
    {l l' : Levels} (h : TypesAll m (some t) steps (some t'))
    (hops : steps.map m.innerOperation? = ops.map some) (hl : l.outer.length = t.openFanOuts)
    (hl' : ops.foldlM Levels.apply l = .ok l') : l'.outer.length = t'.openFanOuts := by
  induction steps generalizing t ops l with
  | nil =>
    cases h
    obtain rfl : ops = [] := by simpa using hops.symm
    obtain rfl : l = l' := Except.ok.inj hl'
    exact hl
  | cons step steps ih =>
    obtain ⟨op, ops, rfl, hop, hlater⟩ := List.map_eq_cons_iff.mp hops.symm
    cases h with
    | cons hstep hsteps =>
      obtain ⟨op', hop', -, -, hdepth⟩ := operation_of_types hstep
      obtain rfl : op' = op := Option.some.inj (hop'.symm.trans hop.symm)
      rw [List.foldlM_cons, bind_eq_ok_iff] at hl'
      obtain ⟨l₁, happly, hrest⟩ := hl'
      exact ih hsteps hlater.symm (by rw [Levels.length_outer_of_apply happly, hl, hdepth]) hrest

theorem Reading.length_outer (r : Reading m) : r.levels.outer.length = r.flowing.openFanOuts :=
  r.typed.length_outer r.operations_eq rfl r.levels_eq

/-- The pipeline of a manifest that was read. -/
def Reading.pipeline (r : Reading m) : Pipeline :=
  .source ⟨r.resource, r.categories, (FlowType.parse r.typeName).text⟩ ::
    (r.levels.closeAll ++ [.deliver ⟨r.target, r.flowing.current.text⟩])

theorem WellFormed.exists_eventBus {bus typeName : String} {categories : List String}
    {later : List Step} (h : m.WellFormed)
    (hsteps : m.steps = .source bus typeName categories :: later) :
    ∃ resource, m.eventBus? bus = some resource := by
  have hdeclared : bus ∈ m.eventBuses.ids := h.declared (.source bus typeName categories)
    (hsteps ▸ List.mem_cons_self)
  obtain ⟨uri, huri⟩ := Registry.exists_get?_of_mem hdeclared
  exact ⟨⟨bus, uri⟩, by simp [eventBus?, huri]⟩

/-- **A well-formed and well-typed manifest builds** to the pipeline of its parts. -/
theorem exists_reading (hform : m.WellFormed) (htype : m.WellTyped) :
    ∃ r : Reading m, m.build = .ok r.pipeline := by
  obtain ⟨bus, typeName, categories, inner, sink, hsteps, -, hsink⟩ := hform.steps
  obtain ⟨resource, hbus⟩ := hform.exists_eventBus hsteps
  obtain ⟨target, htarget, hdeliver⟩ :=
    operation_of_isSink hsink (hform.declared sink (by simp [hsteps]))
  obtain ⟨s, htyped⟩ := htype
  rw [hsteps, List.dropLast_cons_of_ne_nil (by simp), List.dropLast_concat] at htyped
  cases htyped with
  | cons hsource hinner =>
    cases hsource
    obtain ⟨flowing, rfl⟩ := hinner.exists_some
    obtain ⟨ops, hops, hfit, htranslate⟩ := translate_of_typesAll hinner
    -- the operations fit, so lowering goes through them
    obtain ⟨levels, hlevels, htokens⟩ := Levels.exists_foldlM_apply {} hfit
    refine ⟨⟨bus, typeName, categories, inner, sink, hsteps, resource, hbus, flowing, hinner, ops,
      hops, levels, hlevels, by simpa [Levels.tokens, Levels.outerTokens, tokens] using htokens,
      target, htarget⟩, ?_⟩
    have hsinkOps : m.translate (2 + inner.length) flowing [sink] =
        .ok [.deliver ⟨target, flowing.current.text⟩] := by
      rw [translate, hdeliver]
      rfl
    rw [build_eq (validate_eq_ok_iff.mpr hform) hsteps hbus, htranslate, hsinkOps]
    dsimp only [Except.map]
    rw [Composition.lower_deliver _ _ hlevels]
    rfl

/-- **A well-formed manifest is refused at its first step without a type**, with the position and
the code of that step. -/
theorem build_of_not_types {before after : List Step} {step : Step} {s : Option Typing}
    (hform : m.WellFormed) (hsteps : m.steps.dropLast = before ++ step :: after)
    (hbefore : TypesAll m none before s) (hstep : ∀ t, ¬Types m s step t) :
    ∃ e, m.build = .error e ∧ e.untypedAt? = some (before.length + 1) ∧
      e.diagnostic.code = step.untypedCode := by
  obtain ⟨bus, typeName, categories, inner, sink, hall, hinner, hsink⟩ := hform.steps
  obtain ⟨resource, hbus⟩ := hform.exists_eventBus hall
  rw [hall, List.dropLast_cons_of_ne_nil (by simp), List.dropLast_concat] at hsteps
  cases hbefore with
  | nil =>
    -- the first step is the source, which has a type in any case
    obtain ⟨rfl, -⟩ := List.cons.inj hsteps
    exact absurd .source (hstep _)
  | @cons _ _ _ first before hfirst hbefore =>
    rw [List.cons_append] at hsteps
    obtain ⟨rfl, rfl⟩ := List.cons.inj hsteps
    cases hfirst
    obtain ⟨t, rfl⟩ := hbefore.exists_some
    obtain ⟨ops, -, -, htranslate⟩ := translate_of_typesAll hbefore
    obtain ⟨e, herror, hposition, hcode⟩ := operation_of_not_types (hinner step (by simp))
      (hform.declared step (by simp [hall])) hstep (2 + before.length)
    refine ⟨e, ?_, ?_, hcode⟩
    · rw [build_eq (validate_eq_ok_iff.mpr hform) hall hbus, List.append_assoc, htranslate,
        List.cons_append, translate, herror]
      rfl
    · rw [hposition, List.length_cons, Nat.add_comm]

/-- **A well-formed manifest that is not well typed is refused** at its first step without a
type. -/
theorem build_of_not_wellTyped (hform : m.WellFormed) (htype : ¬m.WellTyped) :
    ∃ before step after s e, m.steps.dropLast = before ++ step :: after ∧
      TypesAll m none before s ∧ (∀ t, ¬Types m s step t) ∧ m.build = .error e ∧
      e.untypedAt? = some (before.length + 1) := by
  rcases typesAll_or_exists_first m none m.steps.dropLast with
    htyped | ⟨before, step, after, s, hsteps, hbefore, hstep⟩
  · exact absurd htyped htype
  · obtain ⟨e, hbuild, hposition, -⟩ := build_of_not_types hform hsteps hbefore hstep
    exact ⟨before, step, after, s, e, hsteps, hbefore, hstep, hbuild, hposition⟩

theorem wellFormed_and_wellTyped_of_build_eq_ok {p : Pipeline} (h : m.build = .ok p) :
    m.WellFormed ∧ m.WellTyped := by
  have hform : m.WellFormed := by
    rcases hvalid : m.validate with e | _
    · exact absurd (h.symm.trans (build_of_validate_eq_error hvalid)) (by simp)
    · exact validate_eq_ok_iff.mp hvalid
  refine ⟨hform, Classical.byContradiction fun htype => ?_⟩
  obtain ⟨_, _, _, _, e, -, -, -, herror, -⟩ := build_of_not_wellTyped hform htype
  exact absurd (h.symm.trans herror) (by simp)

/-- **What a manifest that builds is read into.** -/
theorem exists_reading_of_build_eq_ok {p : Pipeline} (h : m.build = .ok p) :
    ∃ r : Reading m, p = r.pipeline := by
  obtain ⟨hform, htype⟩ := wellFormed_and_wellTyped_of_build_eq_ok h
  obtain ⟨r, hr⟩ := exists_reading hform htype
  exact ⟨r, Except.ok.inj (h.symm.trans hr)⟩

/-- **Acceptance, and what a refusal names.** A manifest builds exactly when it is well formed and
well typed. One that is not well formed is refused by the first round of checks; one that is not
well typed is refused at its first step without a type, under that position. So once the steps are
typed, nothing is left that lowering could refuse. -/
theorem build_ok_iff_wellFormed_and_wellTyped (m : Manifest) :
    ((∃ p, m.build = .ok p) ↔ m.WellFormed ∧ m.WellTyped) ∧
      (¬m.WellFormed → ∃ e, m.validate = .error e ∧ m.build = .error e) ∧
      (m.WellFormed → ¬m.WellTyped →
        ∃ before step after s e, m.steps.dropLast = before ++ step :: after ∧
          TypesAll m none before s ∧ (∀ t, ¬Types m s step t) ∧ m.build = .error e ∧
          (e.diagnostic.code = "PIPE-COMP-001" ∨ e.diagnostic.code = "PIPE-COMP-002") ∧
          ∃ detail, e.diagnostic.message =
            "step " ++ toString (before.length + 1) ++ ": " ++ detail) ∧
      (m.WellFormed → ∀ composition, (outcome m.compose []).1 = .ok composition →
        ∃ p, composition.lower = .ok p) := by
  refine ⟨⟨?_, ?_⟩, fun hform => ?_, fun hform htype => ?_, fun hform composition hcompose => ?_⟩
  · rintro ⟨p, hp⟩
    exact wellFormed_and_wellTyped_of_build_eq_ok hp
  · rintro ⟨hform, htype⟩
    obtain ⟨r, hr⟩ := exists_reading hform htype
    exact ⟨_, hr⟩
  · rcases hvalid : m.validate with e | _
    · exact ⟨e, rfl, build_of_validate_eq_error hvalid⟩
    · exact absurd (validate_eq_ok_iff.mp hvalid) hform
  · obtain ⟨before, step, after, s, e, hsteps, hbefore, hstep, hbuild, hposition⟩ :=
      build_of_not_wellTyped hform htype
    obtain ⟨hcode, hmessage⟩ := ManifestError.diagnostic_of_untypedAt? hposition
    exact ⟨before, step, after, s, e, hsteps, hbefore, hstep, hbuild, hcode, hmessage⟩
  · have hbuild := build_eq_lower (validate_eq_ok_iff.mpr hform)
    simp only [hcompose] at hbuild
    rcases hlower : composition.lower with e | p
    · -- a refusal of lowering would be the refusal of the build, which names a step instead
      replace hbuild : m.build = .error (.composition e) := by
        rw [hbuild, hlower]
        rfl
      have htype : ¬m.WellTyped := fun htype => by
        obtain ⟨r, hr⟩ := exists_reading hform htype
        exact absurd (hr.symm.trans hbuild) (by simp)
      obtain ⟨_, _, _, _, e', -, -, -, hrefused, hposition⟩ := build_of_not_wellTyped hform htype
      obtain rfl : .composition e = e' := Except.error.inj (hbuild.symm.trans hrefused)
      simp [ManifestError.untypedAt?] at hposition
    · exact ⟨p, rfl⟩

/-- A manifest that prices the lines of an order one by one and collects the prices. -/
def orders : Manifest where
  version := "1.0"
  name := "orders"
  eventBuses := .ofList [("input", "bus:input")]
  queues := .ofList [("reply", "queue:reply")]
  functions := .ofList [("lines", ⟨"fn:lines", "Order", "[Line]"⟩),
    ("price", ⟨"fn:price", "Line", "Price"⟩)]
  steps := [.source "input" "Order" [], .join "lines", .lift (.bounded "price" (some 4)), .unit,
    .toQueue "reply"]

/-- The same with the prices collected twice. -/
def ordersCollectedTwice : Manifest :=
  { orders with steps := [.source "input" "Order" [], .join "lines",
      .lift (.bounded "price" (some 4)), .unit, .unit, .toQueue "reply"] }

theorem build_orders :
    (orders.WellFormed ∧ orders.WellTyped ∧ ∃ p, orders.build = .ok p) ∧
      ordersCollectedTwice.WellFormed ∧ ¬ordersCollectedTwice.WellTyped ∧
      ∃ before step after s, ordersCollectedTwice.steps.dropLast = before ++ step :: after ∧
        TypesAll ordersCollectedTwice none before s ∧
        ∀ t, ¬Types ordersCollectedTwice s step t := by
  obtain ⟨haccept, -⟩ := build_ok_iff_wellFormed_and_wellTyped orders
  obtain ⟨haccept', -, hrefuse, -⟩ := build_ok_iff_wellFormed_and_wellTyped ordersCollectedTwice
  have hform : orders.WellFormed := by decide +kernel
  have htype : orders.WellTyped := by
    have hlines : FlowType.parse "[Line]" = .list (.parse "Line") := by decide +kernel
    have hinner : TypesAll orders (some ⟨.list (.parse "Line"), 0⟩)
        [.lift (.bounded "price" (some 4)), .unit] (some ⟨.list (.parse "Price"), 0⟩) :=
      .cons (@Types.lift _ (.bounded "price" (some 4)) ⟨"fn:price", "Line", "Price"⟩ _ rfl)
        (.cons .unit .nil)
    exact ⟨_, .cons .source
      (.cons (@Types.join _ _ ⟨"fn:lines", "Order", "[Line]"⟩ _ rfl) (hlines ▸ hinner))⟩
  have hform' : ordersCollectedTwice.WellFormed := by decide +kernel
  have htype' : ¬ordersCollectedTwice.WellTyped := by
    have hrefused : ordersCollectedTwice.build.isOk = false := by decide +kernel
    intro htype
    obtain ⟨p, hp⟩ := haccept'.mpr ⟨hform', htype⟩
    rw [hp] at hrefused
    exact Bool.noConfusion hrefused
  obtain ⟨before, step, after, s, e, hsteps, hbefore, hstep, -⟩ := hrefuse hform' htype'
  exact ⟨⟨hform, htype, haccept.mpr ⟨hform, htype⟩⟩, hform', htype', before, step, after, s,
    hsteps, hbefore, hstep⟩

end Manifest

end EventFlow
