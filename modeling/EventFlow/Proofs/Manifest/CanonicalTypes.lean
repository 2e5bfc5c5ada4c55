import EventFlow.Proofs.Manifest.DistinctNames
import EventFlow.Proofs.Manifest.TypeNotation
import EventFlow.Proofs.Manifest.Typing
import Mathlib.Data.List.DropRight

/-!
# The notation of types is canonical

A text may be read as a type in many spellings: with blanks at any level, with either notation for
lists, with marks that do not match. What is read has one spelling that is written. The types that
are read are **canonical** (`FlowType.canonical_parse`): the name inside has no blanks around it and
does not look like a list itself. Reading brings each of them back from what is written
(`Canonical.parse_text`), so on them the notation tells types apart (`Canonical.text_inj`).

Lists of canonical types are canonical and so are the elements of canonical lists. Each rule of the
typing reads a type, takes an element or makes a list, so **all that flows through a manifest is
canonical** (`ends_operation`). Therefore a refusal for the wrong type shows two different
texts (`ManifestError.Distinguishes`), and the names of types in a pipeline stand for what flowed.
-/

namespace EventFlow

/-- A text without blanks around it stays as it is. -/
theorem Text.trimChars_trimChars (cs : List Char) : trimChars (trimChars cs) = trimChars cs := by
  have htrim (l : List Char) : trimChars l = (l.dropWhile isBlank).rdropWhile isBlank := rfl
  have hfront : (trimChars cs).dropWhile isBlank = trimChars cs := by
    obtain ⟨rest, hrest⟩ : trimChars cs <+: cs.dropWhile isBlank := List.rdropWhile_prefix _ _
    rcases hcs : trimChars cs with _ | ⟨c, inner⟩
    · rfl
    · -- the first character is one at which cutting off in front has stopped
      have hfirst := List.head?_dropWhile_not isBlank cs
      rw [← hrest, hcs] at hfirst
      exact List.dropWhile_cons_of_neg (by simpa using hfirst)
  rw [htrim (trimChars cs), hfront, htrim cs, List.rdropWhile_idempotent]

namespace FlowType

/-! ### Canonical types -/

/-- **A canonical type**: its name has no blanks around it and is not itself read as a list. -/
def Canonical : FlowType → Prop
  | named name => Text.trimChars name.toList = name.toList ∧ inside? name.toList = none
  | list element => element.Canonical

/-- **What is read is canonical.** -/
theorem canonical_parseChars (cs : List Char) : (parseChars cs).Canonical := by
  fun_induction parseChars cs with
  | case1 cs inner hinner ih => exact ih
  | case2 cs hnone => exact ⟨by simp [Text.trimChars_trimChars], by simpa using hnone⟩

theorem canonical_parse (text : String) : (parse text).Canonical :=
  canonical_parseChars text.toList

/-- A name that is not read as a list is read as itself. -/
theorem parse_text_named {name : String} (h : (named name).Canonical) :
    parse (named name).text = named name := by
  obtain ⟨htrim, hnone⟩ := h
  have hinside : inside? (Text.trimChars name.toList) = none := by rwa [htrim]
  rw [text, parse, parseChars]
  split
  · next inner hinner => simp [hinside] at hinner
  · rw [htrim, String.ofList_toList]

/-- **A canonical type is read back from its notation.** -/
theorem Canonical.parse_text {t : FlowType} (h : t.Canonical) : parse t.text = t := by
  induction t with
  | named name => exact parse_text_named h
  | list element ih => rw [text, parse_brackets, ih h]

/-- **Canonical types with one notation are equal.** -/
theorem Canonical.text_inj {t t' : FlowType} (h : t.Canonical) (h' : t'.Canonical) :
    t.text = t'.text ↔ t = t' := by
  refine ⟨fun htext => ?_, congrArg text⟩
  rw [← h.parse_text, htext, h'.parse_text]

end FlowType

/-! ### Refusals and values -/

section Ends

variable {ε α β : Type} {P : ε → Prop} {Q : α → Prop} {R : β → Prop}

/-- **What a computation ends with**: a refusal of one kind or a value of another. -/
structure Ends (P : ε → Prop) (Q : α → Prop) (x : Except ε α) : Prop where
  refusal : ∀ e, x = .error e → P e
  value : ∀ a, x = .ok a → Q a

theorem Ends.ok {a : α} (h : Q a) : Ends P Q (.ok a) :=
  ⟨fun _ he => absurd he (by simp), fun _ ha => Except.ok.inj ha ▸ h⟩

theorem Ends.error {e : ε} (h : P e) : Ends P Q (.error e) :=
  ⟨fun _ he => Except.error.inj he ▸ h, fun _ ha => absurd ha (by simp)⟩

theorem Ends.ite {c : Prop} [Decidable c] {x y : Except ε α} (hx : c → Ends P Q x)
    (hy : ¬c → Ends P Q y) : Ends P Q (if c then x else y) := by
  by_cases hc : c
  · rw [if_pos hc]
    exact hx hc
  · rw [if_neg hc]
    exact hy hc

theorem Ends.bind {x : Except ε α} {f : α → Except ε β} (hx : Ends P Q x)
    (hf : ∀ a, Q a → Ends P R (f a)) : Ends P R (x >>= f) := by
  rcases x with e | a
  · exact .error (hx.refusal e rfl)
  · exact hf a (hx.value a rfl)

end Ends

namespace ManifestError

/-- **A refusal that tells types apart**: where it is about a wrong type, the notations of the type
that was expected and of the one that was found differ. -/
def Distinguishes : ManifestError → Prop
  | typeMismatch _ _ expected found => expected.text ≠ found.text
  | _ => True

end ManifestError

namespace Manifest

open ManifestError (Distinguishes)

variable {m : Manifest}

/-! ### The first round of checks -/

/-- A check that is not about types. -/
abbrev Distinguished (x : Except ManifestError Unit) : Prop :=
  Ends Distinguishes (fun _ => True) x

theorem distinguished_checkReferences (position : Nat) (step : Step) :
    Distinguished (m.checkReferences position step) := by
  have hdeclared (kind id : String) (known : Bool) : Distinguished
      (if known then .ok () else .error (.unknownResource position kind id)) :=
    .ite (fun _ => .ok trivial) fun _ => .error trivial
  cases step with
  | wrap => exact .ok trivial
  | unit => exact .ok trivial
  | _ => exact hdeclared _ _ _

theorem distinguished_checkPosition (position : Nat) (step : Step) :
    Distinguished (checkPosition position step) := by
  cases step with
  | source => exact .ite (fun _ => .ok trivial) fun _ => .error trivial
  | _ => exact .ite (fun _ => .error trivial) fun _ => .ok trivial

theorem distinguished_checkSteps (position : Nat) (steps : List Step) :
    Distinguished (m.checkSteps position steps) := by
  induction steps generalizing position with
  | nil => exact .ok trivial
  | cons step steps ih =>
    have hrest : Distinguished (m.checkReferences position step >>= fun _ =>
        m.checkSteps (position + 1) steps) :=
      (distinguished_checkReferences position step).bind fun _ _ => ih (position + 1)
    refine (distinguished_checkPosition position step).bind fun _ _ => ?_
    rcases steps with _ | ⟨next, steps⟩
    · exact hrest
    · exact .ite (fun _ => .error trivial) fun _ => hrest

theorem distinguished_validate (m : Manifest) : Distinguished m.validate := by
  have hsteps : Distinguished (m.checkSteps 1 m.steps >>= fun _ =>
      if !m.steps.getLast?.any Step.isSink then throw .missingSink else pure ()) :=
    (distinguished_checkSteps 1 m.steps).bind fun _ _ =>
      .ite (fun _ => .error trivial) fun _ => .ok trivial
  refine .ite (fun _ => .error trivial) fun _ => .ite (fun _ => .error trivial) fun _ =>
    .ite (fun _ => .error trivial) fun _ => ?_
  rcases m.deadLetterQueue with _ | id
  · exact hsteps
  · exact .ite (fun _ => .error trivial) fun _ => hsteps

/-! ### What flows -/

/-- What a function is applied to is compared with what it expects. -/
theorem ends_apply (position : Nat) (id : String) (f : FunctionDecl) {argument : FlowType}
    (h : argument.Canonical) :
    Ends Distinguishes FlowType.Canonical (Typing.apply position id f argument) := by
  refine .ite (fun _ => .ok (FlowType.canonical_parse _)) fun hne => .error fun htext => ?_
  exact hne (((FlowType.canonical_parse _).text_inj h).mp htext)

theorem ends_element {t : Typing} (position : Nat) (operation : String) (h : t.current.Canonical) :
    Ends Distinguishes FlowType.Canonical (t.element position operation) := by
  obtain ⟨name | element, depth⟩ := t
  · exact .error trivial
  · exact .ok h

theorem ends_function (position : Nat) (id : String) :
    Ends Distinguishes (fun _ => True) (m.function position id) := by
  rw [function]
  cases m.functions.get? id with
  | none => exact .error trivial
  | some f => exact .ok trivial

theorem ends_queue (position : Nat) (id : String) :
    Ends Distinguishes (fun _ => True) (m.queue position id) := by
  rw [queue]
  cases m.queue? id with
  | none => exact .error trivial
  | some queue => exact .ok trivial

theorem ends_eventBus (position : Nat) (id : String) :
    Ends Distinguishes (fun _ => True) (m.eventBus position id) := by
  rw [eventBus]
  cases m.eventBus? id with
  | none => exact .error trivial
  | some bus => exact .ok trivial

/-- **Canonical types stay canonical** from step to step, and a refusal tells types apart. -/
theorem ends_operation {t : Typing} (position : Nat) (step : Step) (h : t.current.Canonical) :
    Ends Distinguishes (fun r => r.2.current.Canonical) (m.operation position t step) := by
  cases step with
  | source => exact .error trivial
  | join id =>
    exact (ends_function position id).bind fun f _ =>
      (ends_apply position id f h).bind fun _ houtput => .ok houtput
  | lift l =>
    exact (ends_function position l.function).bind fun f _ =>
      (ends_element position "lift" h).bind fun _ helement =>
        (ends_apply position l.function f helement).bind fun _ houtput => .ok houtput
  | wrap => exact (ends_element position "wrap" h).bind fun _ helement => .ok helement
  | unit => exact .ite (fun _ => .error trivial) fun _ => .ok h
  | toQueue id => exact (ends_queue position id).bind fun _ _ => .ok h
  | toEventBus id => exact (ends_eventBus position id).bind fun _ _ => .ok h

/-- From a canonical type on, the refusals of all steps tell types apart. -/
theorem ends_translate {t : Typing} (position : Nat) (steps : List Step)
    (h : t.current.Canonical) :
    Ends Distinguishes (fun _ => True) (m.translate position t steps) := by
  induction steps generalizing position t with
  | nil => exact .ok trivial
  | cons step steps ih =>
    have hstep := @ends_operation m t position step h
    rw [translate]
    rcases hop : m.operation position t step with e | ⟨op, t'⟩
    · exact .error (hstep.refusal e hop)
    · have hrest := ih (position + 1) (hstep.value _ hop)
      dsimp only
      rcases hops : m.translate (position + 1) t' steps with e | ops
      · exact .error (hrest.refusal e hops)
      · exact .ok trivial

/-- **A refusal for a wrong type shows two different texts.** -/
theorem distinguishes_of_build_eq_error {e : ManifestError} (h : m.build = .error e) :
    Distinguishes e := by
  rcases hvalid : m.validate with e' | _
  · obtain rfl : e' = e := Except.error.inj ((build_of_validate_eq_error hvalid).symm.trans h)
    exact (distinguished_validate m).refusal e' hvalid
  · obtain ⟨bus, typeName, categories, inner, sink, hsteps, -⟩ :=
      (validate_eq_ok_iff.mp hvalid).steps
    obtain ⟨resource, hbus⟩ := (validate_eq_ok_iff.mp hvalid).exists_eventBus hsteps
    have htranslate : Ends Distinguishes (fun _ => True)
        (m.translate 2 ⟨.parse typeName, 0⟩ (inner ++ [sink])) :=
      ends_translate 2 _ (FlowType.canonical_parse typeName)
    rw [build_eq hvalid hsteps hbus] at h
    rcases hops : m.translate 2 ⟨.parse typeName, 0⟩ (inner ++ [sink]) with e' | ops
    · rw [hops] at h
      exact Except.error.inj h ▸ htranslate.refusal e' hops
    · -- lowering speaks of no types
      rw [hops] at h
      dsimp only at h
      rcases hlower : Composition.lower
          ⟨⟨resource, categories, (FlowType.parse typeName).text⟩, ops⟩ with e' | p
      · rw [hlower] at h
        obtain rfl : .composition e' = e := Except.error.inj h
        trivial
      · rw [hlower] at h
        exact absurd (show Except.ok p = .error e from h) (by simp)

/-! ### What is built -/

theorem Types.canonical {t t' : Typing} {step : Step} (h : Types m (some t) step t')
    (ht : t.current.Canonical) : t'.current.Canonical := by
  obtain ⟨op, -, hop, -⟩ := operation_of_types h
  exact (ends_operation 0 step ht).value _ (hop 0)

theorem TypesAll.canonical {t t' : Typing} {steps : List Step}
    (h : TypesAll m (some t) steps (some t')) (ht : t.current.Canonical) :
    t'.current.Canonical := by
  induction steps generalizing t with
  | nil =>
    cases h
    exact ht
  | cons step steps ih =>
    cases h with
    | cons hstep hsteps => exact ih hsteps (hstep.canonical ht)

/-- A step has one typing at most. -/
theorem Types.unique {s : Option Typing} {step : Step} {t t' : Typing} (h : Types m s step t)
    (h' : Types m s step t') : t = t' := by
  rcases s with _ | s
  · cases h
    cases h'
    rfl
  · obtain ⟨op, -, hop, -⟩ := operation_of_types h
    obtain ⟨op', -, hop', -⟩ := operation_of_types h'
    exact (Prod.ext_iff.mp (Except.ok.inj ((hop 0).symm.trans (hop' 0)))).2

/-- Steps have one typing at most. -/
theorem TypesAll.unique {s t t' : Option Typing} {steps : List Step} (h : TypesAll m s steps t)
    (h' : TypesAll m s steps t') : t = t' := by
  induction steps generalizing s with
  | nil =>
    cases h
    cases h'
    rfl
  | cons step steps ih =>
    cases h with
    | cons hstep hsteps =>
      cases h' with
      | cons hstep' hsteps' =>
        obtain rfl := hstep.unique hstep'
        exact ih hsteps hsteps'

/-- What flows out of the source and what flows into the sink of a manifest that was read. -/
theorem Reading.typesAll (r : Reading m) :
    TypesAll m none (m.steps.take 1) (some ⟨.parse r.typeName, 0⟩) ∧
      TypesAll m none m.steps.dropLast (some r.flowing) := by
  rw [r.steps_eq, List.dropLast_cons_of_ne_nil (by simp), List.dropLast_concat]
  exact ⟨.cons .source .nil, .cons .source r.typed⟩

/-- **The notation of types is canonical.** Reading what is written for a type that was read gives
that type again, and two such types are equal exactly if their notations are. So a manifest that is
refused for a wrong type is told two different texts; and the names of types in a pipeline that was
built, at its source and at its delivery, are read as the types that flowed there. -/
theorem typeNotation_canonical (text text' : String) (m : Manifest) :
    FlowType.parse (FlowType.parse text).text = FlowType.parse text ∧
      (FlowType.parse text = FlowType.parse text' ↔
        (FlowType.parse text).text = (FlowType.parse text').text) ∧
      (∀ position id expected found,
        m.build = .error (.typeMismatch position id expected found) →
          (ManifestError.typeMismatch position id expected found).diagnostic.message =
            "step " ++ toString position ++ ": " ++
              (id ++ " expects " ++ expected.text ++ ", got " ++ found.text) ∧
          expected.text ≠ found.text) ∧
      ∀ p, m.build = .ok p → ∃ source body delivery first last,
        p = .source source :: (body ++ [.deliver delivery]) ∧ PlainChain body ∧
          (∀ t, TypesAll m none (m.steps.take 1) t ↔ t = some first) ∧
          FlowType.parse source.typeName = first.current ∧
          (∀ t, TypesAll m none m.steps.dropLast t ↔ t = some last) ∧
          FlowType.parse delivery.typeName = last.current := by
  have hread := FlowType.canonical_parse text
  refine ⟨hread.parse_text, (hread.text_inj (FlowType.canonical_parse text')).symm,
    fun position id expected found h => ⟨rfl, distinguishes_of_build_eq_error h⟩, fun p h => ?_⟩
  obtain ⟨r, rfl⟩ := exists_reading_of_build_eq_ok h
  obtain ⟨hfirst, hlast⟩ := r.typesAll
  have hsource : (FlowType.parse r.typeName).Canonical := FlowType.canonical_parse _
  refine ⟨_, _, _, _, _, rfl, r.plainChain_closeAll, fun t => ⟨fun ht => ht.unique hfirst, ?_⟩,
    hsource.parse_text, fun t => ⟨fun ht => ht.unique hlast, ?_⟩,
    (r.typed.canonical hsource).parse_text⟩
  · rintro rfl
    exact hfirst
  · rintro rfl
    exact hlast

/-- A manifest that spells its types in several ways, with a last function of a chosen argument. -/
def shipments (argument : String) : Manifest where
  version := "1.0"
  name := "shipments"
  eventBuses := .ofList [("input", "bus:input")]
  queues := .ofList [("reply", "queue:reply")]
  functions := .ofList [("weigh", ⟨"fn:weigh", " Vec< Parcel>", "[ [Weight ]]"⟩),
    ("pack", ⟨"fn:pack", argument, "Vec<Crate"⟩)]
  steps := [.source "input" "[Parcel ]" [], .join "weigh", .lift (.plain "pack"),
    .toQueue "reply"]

theorem typeNotation_shipments :
    (∃ p source body delivery, (shipments "Vec<Weight>").build = .ok p ∧
      p = .source source :: (body ++ [.deliver delivery]) ∧
      FlowType.parse source.typeName = .list (.named "Parcel") ∧
      FlowType.parse delivery.typeName = .named "Vec<Crate") ∧
    ∃ expected found,
      (shipments "Weight").build = .error (.typeMismatch 3 "pack" expected found) ∧
      expected.text ≠ found.text := by
  obtain ⟨-, -, -, hbuilt⟩ := typeNotation_canonical "" "" (shipments "Vec<Weight>")
  obtain ⟨-, -, hrefused, -⟩ := typeNotation_canonical "" "" (shipments "Weight")
  constructor
  · have hform : (shipments "Vec<Weight>").WellFormed := by decide +kernel
    have htyped : TypesAll (shipments "Vec<Weight>") none (shipments "Vec<Weight>").steps.dropLast
        (some ⟨.named "Vec<Crate", 1⟩) := by
      have hparcels : FlowType.parse "[Parcel ]" = .parse " Vec< Parcel>" := by decide +kernel
      have hweights : FlowType.parse "[ [Weight ]]" = .list (.parse "Vec<Weight>") := by
        decide +kernel
      have hcrate : FlowType.parse "Vec<Crate" = .named "Vec<Crate" := by decide +kernel
      have hpack : TypesAll (shipments "Vec<Weight>") (some ⟨.parse "[ [Weight ]]", 0⟩)
          [.lift (.plain "pack")] (some ⟨.named "Vec<Crate", 1⟩) := by
        rw [hweights, ← hcrate]
        exact .cons
          (@Types.lift _ (.plain "pack") ⟨"fn:pack", "Vec<Weight>", "Vec<Crate"⟩ _ rfl) .nil
      have hweigh : TypesAll (shipments "Vec<Weight>") (some ⟨.parse "[Parcel ]", 0⟩)
          [.join "weigh", .lift (.plain "pack")] (some ⟨.named "Vec<Crate", 1⟩) := by
        rw [hparcels]
        exact .cons (@Types.join _ _ ⟨"fn:weigh", " Vec< Parcel>", "[ [Weight ]]"⟩ _ rfl) hpack
      exact .cons .source hweigh
    obtain ⟨r, hr⟩ := exists_reading hform ⟨_, htyped⟩
    obtain ⟨source, body, delivery, first, last, hp, -, hfirst, hsource, hlast, hdelivery⟩ :=
      hbuilt _ hr
    refine ⟨_, source, body, delivery, hr, hp, ?_, ?_⟩
    · rw [hsource, ← Option.some.inj ((hfirst _).mp (.cons .source .nil))]
      decide +kernel
    · rw [hdelivery, ← Option.some.inj ((hlast _).mp htyped)]
  · have htranslate : (shipments "Weight").translate 2 ⟨.parse "[Parcel ]", 0⟩
        [.join "weigh", .lift (.plain "pack"), .toQueue "reply"] = .error
          (.typeMismatch 3 "pack" (.named "Weight") (.list (.named "Weight"))) := by
      decide +kernel
    have hbuild : (shipments "Weight").build = .error
        (.typeMismatch 3 "pack" (.named "Weight") (.list (.named "Weight"))) := by
      rw [build_eq (validate_eq_ok_iff.mpr (by decide +kernel)) rfl rfl, htranslate]
    exact ⟨_, _, hbuild, (hrefused _ _ _ _ hbuild).2⟩

end Manifest

end EventFlow
