import EventFlow.Manifest.Document
import EventFlow.Proofs.Document.Table
import Mathlib.Data.List.Forall2

/-!
# Trees that mirror the documents of manifests

A manifest is read from any kind of tree that has a `View`. What the view sees is tied to documents
by a relation `Shows` between trees and documents: a relation is a **mirror** (`Mirrors`) if the
view sees in a tree what the document says, for each way to look into a tree. Reading is then settled
once for all kinds of trees, one declaration and one step after the other: **a tree that shows the
document of a manifest is read as this manifest** (`Mirrors.read`), if the bounds of the manifest
are numbers of 64 bits (`Manifest.Fits`).

Documents are trees that show themselves (`Document.mirrors`). What is read from a document always
fits (`fits_of_ofDocument?`), so the condition is needed.
-/

namespace EventFlow

open Document (lookupField)

/-! ### Bounds of 64 bits -/

/-- The bound of a lift, if it is given, is a number of 64 bits. -/
def Lift.Fits (l : Lift) : Prop :=
  ∀ function n, l = .bounded function (some n) → n < Nat.pow 2 64

/-- All bounds of a manifest are numbers of 64 bits. -/
def Manifest.Fits (m : Manifest) : Prop :=
  ∀ l, .lift l ∈ m.steps → l.Fits

theorem bound?_eq_some_iff {i : Int} {n : Nat} :
    bound? i = some n ↔ i = n ∧ n < Nat.pow 2 64 := by
  simp only [bound?, Bool.and_eq_true, decide_eq_true_eq, Option.ite_none_right_eq_some,
    Option.some.injEq]
  constructor
  · rintro ⟨⟨hnonneg, hlt⟩, rfl⟩
    omega
  · rintro ⟨rfl, hlt⟩
    omega

/-! ### Registries -/

namespace Registry

variable {α : Type}

theorem insertEntry_of_notMem {id : String} {value : α} {entries : List (String × α)}
    (h : id ∉ entries.map Prod.fst) : insertEntry id value entries = entries ++ [(id, value)] := by
  induction entries with
  | nil => rfl
  | cons entry entries ih =>
    rw [List.map_cons, List.mem_cons, not_or] at h
    rw [insertEntry, if_neg fun heq => h.1 heq.symm, ih h.2, List.cons_append]

/-- Declaring distinct new names one after the other appends them. -/
theorem entries_foldl_insert {r : Registry α} {later : List (String × α)}
    (h : ((r.entries ++ later).map Prod.fst).Nodup) :
    (later.foldl (fun r entry => r.insert entry.1 entry.2) r).entries = r.entries ++ later := by
  induction later generalizing r with
  | nil => simp
  | cons entry later ih =>
    obtain ⟨id, value⟩ := entry
    have hnew : id ∉ r.entries.map Prod.fst := by
      rw [List.map_append, List.map_cons, List.nodup_middle, List.nodup_cons] at h
      exact fun hmem => h.1 (List.mem_append_left _ hmem)
    have hinsert : (r.insert id value).entries = r.entries ++ [(id, value)] :=
      insertEntry_of_notMem hnew
    rw [List.foldl_cons, ih (by rwa [hinsert, List.append_assoc]), hinsert, List.append_assoc]
    rfl

/-- **A registry is what declaring its entries in order gives.** -/
theorem ofList_entries (r : Registry α) : ofList r.entries = r := by
  have hentries : (ofList r.entries).entries = r.entries :=
    entries_foldl_insert (r := {}) r.nodup
  cases r with
  | mk entries nodup =>
    cases h : ofList entries with
    | mk entries' nodup' =>
      rw [h] at hentries
      cases hentries
      rfl

end Registry

/-! ### Mirrors -/

/-- **A view sees in a tree what the document says that the tree shows.** -/
structure Mirrors {m : Type → Type} {σ : Type} [Monad m] [View m σ]
    (Shows : σ → Document → Prop) : Prop where
  text {v : σ} {s : String} : Shows v (.text s) → View.text v = (pure s : m String)
  nothing {v : σ} : Shows v .null → View.optional v = (pure none : m (Option σ))
  something {v : σ} {s : String} : Shows v (.text s) →
    ∃ w : σ, View.optional v = (pure (some w) : m (Option σ)) ∧ Shows w (.text s)
  items {v : σ} {ds : List Document} : Shows v (.list ds) →
    ∃ vs : List σ, View.items v = (pure vs : m (List σ)) ∧ List.Forall₂ Shows vs ds
  entries {v : σ} {fs : List (String × Document)} : Shows v (.table fs) →
    ∃ es : List (String × σ), View.entries v = (pure es : m (List (String × σ))) ∧
      List.Forall₂ (fun e f => e.1 = f.1 ∧ Shows e.2 f.2) es fs
  fields {v : σ} {fs : List (String × Document)} (names : List String) : Shows v (.table fs) →
    (fs.map Prod.fst).Nodup →
    ∃ field : String → Option σ, View.fields names v = (pure field : m (String → Option σ)) ∧
      ∀ name d, lookupField name fs = some d → ∃ w, field name = some w ∧ Shows w d
  word {v : σ} {s : String} : Shows v (.text s) →
    View.choice v = (pure (s, none) : m (String × Option σ))
  choice {v : σ} {name : String} {d : Document} : Shows v (.table [(name, d)]) →
    ∃ w : σ, View.choice v = (pure (name, some w) : m (String × Option σ)) ∧ Shows w d
  lift {v : σ} {l : Lift} : l.Fits → Shows v l.document → View.lift v = (pure l : m Lift)

namespace Mirrors

open Manifest

variable {m : Type → Type} {σ : Type} [Monad m] [LawfulMonad m] [View m σ]
  {Shows : σ → Document → Prop} {v : σ}

/-- Reading one tree after the other. -/
theorem exists_mapM_eq_pure {τ α δ : Type} {R : α → δ → Prop} {read : τ → m α} {vs : List τ}
    {ds : List δ} (h : List.Forall₂ (fun v d => ∃ x, read v = pure x ∧ R x d) vs ds) :
    ∃ xs, vs.mapM read = pure xs ∧ List.Forall₂ R xs ds := by
  induction h with
  | nil => exact ⟨[], rfl, .nil⟩
  | cons hv _ ih =>
    obtain ⟨x, hx, hrel⟩ := hv
    obtain ⟨xs, hxs, hrels⟩ := ih
    exact ⟨x :: xs, by simp [List.mapM_cons, hx, hxs], .cons hrel hrels⟩

theorem mapM_eq_pure {τ α : Type} {read : τ → m α} {vs : List τ} {xs : List α}
    (h : List.Forall₂ (fun v x => read v = pure x) vs xs) : vs.mapM read = pure xs := by
  obtain ⟨ys, hread, heq⟩ := exists_mapM_eq_pure (h.imp fun _ x hx => ⟨x, hx, rfl⟩)
  rw [List.forall₂_eq_eq_eq] at heq
  rw [hread, heq]

theorem readTexts (hmirrors : Mirrors Shows) {texts : List String}
    (h : Shows v (Document.ofTexts texts)) : readTexts v = (pure texts : m (List String)) := by
  obtain ⟨vs, hitems, hshows⟩ := hmirrors.items h
  rw [Manifest.readTexts, hitems, pure_bind]
  refine mapM_eq_pure ((List.forall₂_map_right_iff.mp hshows).imp ?_)
  intro w s hw
  exact hmirrors.text hw

/-- Declarations that are read one by one are read together. -/
theorem readRegistry (hmirrors : Mirrors Shows) {α : Type} {value : α → Document} {read : σ → m α}
    (hread : ∀ {w : σ} {a : α}, Shows w (value a) → read w = pure a) {r : Registry α}
    (h : Shows v (registryDocument value r)) : readRegistry read v = (pure r : m (Registry α)) := by
  obtain ⟨es, hentries, hshows⟩ := hmirrors.entries h
  have hall : es.mapM (fun entry => do return (entry.1, ← read entry.2)) =
      (pure r.entries : m (List (String × α))) := by
    refine mapM_eq_pure ((List.forall₂_map_right_iff.mp hshows).imp ?_)
    rintro ⟨id, w⟩ ⟨id', a⟩ ⟨rfl, hw⟩
    rw [hread hw, pure_bind]
  rw [Manifest.readRegistry, hentries, pure_bind, hall, pure_bind, Registry.ofList_entries]

theorem readUri (hmirrors : Mirrors Shows) {uri : String} (h : Shows v (uriDocument uri)) :
    readUri v = (pure uri : m String) := by
  obtain ⟨field, hfields, hfield⟩ := hmirrors.fields ["uri"] h (by simp)
  obtain ⟨w, hw, huri⟩ := hfield "uri" _ rfl
  simp [Manifest.readUri, hfields, required, hw, hmirrors.text huri]

theorem readFunction (hmirrors : Mirrors Shows) {f : FunctionDecl} (h : Shows v f.document) :
    readFunction v = (pure f : m FunctionDecl) := by
  obtain ⟨field, hfields, hfield⟩ := hmirrors.fields ["uri", "input", "output"] h (by simp)
  obtain ⟨w₁, hw₁, huri⟩ := hfield "uri" _ rfl
  obtain ⟨w₂, hw₂, hinput⟩ := hfield "input" _ rfl
  obtain ⟨w₃, hw₃, houtput⟩ := hfield "output" _ rfl
  simp [Manifest.readFunction, hfields, required, hw₁, hw₂, hw₃, hmirrors.text huri,
    hmirrors.text hinput, hmirrors.text houtput]

theorem readOptionalText (hmirrors : Mirrors Shows) {text : Option String}
    (h : Shows v (Document.ofText? text)) :
    readOptionalText v = (pure text : m (Option String)) := by
  cases text with
  | none => simp [Manifest.readOptionalText, hmirrors.nothing h]
  | some s =>
    obtain ⟨w, hoptional, hw⟩ := hmirrors.something h
    simp [Manifest.readOptionalText, hoptional, hmirrors.text hw]

theorem readStep (hmirrors : Mirrors Shows) {step : Step}
    (hfits : ∀ l, step = .lift l → l.Fits) (h : Shows v step.document) :
    readStep v = (pure step : m Step) := by
  cases step with
  | wrap => simp [Manifest.readStep, hmirrors.word h, Step.name]
  | unit => simp [Manifest.readStep, hmirrors.word h, Step.name]
  | join function =>
    obtain ⟨w, hchoice, hw⟩ := hmirrors.choice h
    simp [Manifest.readStep, hchoice, Step.name, hmirrors.text hw]
  | toQueue queue =>
    obtain ⟨w, hchoice, hw⟩ := hmirrors.choice h
    simp [Manifest.readStep, hchoice, Step.name, hmirrors.text hw]
  | lift l =>
    obtain ⟨w, hchoice, hw⟩ := hmirrors.choice h
    simp [Manifest.readStep, hchoice, Step.name, hmirrors.lift (hfits l rfl) hw]
  | source bus typeName categories =>
    obtain ⟨w, hchoice, hw⟩ := hmirrors.choice h
    obtain ⟨field, hfields, hfield⟩ := hmirrors.fields ["bus", "type", "categories"] hw (by simp)
    obtain ⟨w₁, hw₁, hbus⟩ := hfield "bus" _ rfl
    obtain ⟨w₂, hw₂, htype⟩ := hfield "type" _ rfl
    obtain ⟨w₃, hw₃, hcategories⟩ := hfield "categories" _ rfl
    simp [Manifest.readStep, hchoice, Step.name, hfields, required, orDefault, hw₁, hw₂, hw₃,
      hmirrors.text hbus, hmirrors.text htype, hmirrors.readTexts hcategories]
  | toEventBus bus origin categories =>
    obtain ⟨w, hchoice, hw⟩ := hmirrors.choice h
    obtain ⟨field, hfields, hfield⟩ := hmirrors.fields ["bus", "source", "categories"] hw (by simp)
    obtain ⟨w₁, hw₁, hbus⟩ := hfield "bus" _ rfl
    obtain ⟨w₂, hw₂, horigin⟩ := hfield "source" _ rfl
    obtain ⟨w₃, hw₃, hcategories⟩ := hfield "categories" _ rfl
    simp [Manifest.readStep, hchoice, Step.name, hfields, required, orDefault, hw₁, hw₂, hw₃,
      hmirrors.text hbus, hmirrors.text horigin, hmirrors.readTexts hcategories]

theorem readSteps (hmirrors : Mirrors Shows) {steps : List Step}
    (hfits : ∀ l, .lift l ∈ steps → l.Fits) (h : Shows v (.list (steps.map Step.document))) :
    (do (← View.items v).mapM Manifest.readStep) = (pure steps : m (List Step)) := by
  obtain ⟨vs, hitems, hshows⟩ := hmirrors.items h
  rw [hitems, pure_bind]
  refine mapM_eq_pure ?_
  have hpairs := List.forall₂_map_right_iff.mp hshows
  clear hitems h hshows
  induction hpairs with
  | nil => exact .nil
  | @cons w step ws steps hw _ ih =>
    refine .cons (hmirrors.readStep (fun l hl => hfits l (hl ▸ List.mem_cons_self)) hw) ?_
    exact ih fun l hl => hfits l (List.mem_cons_of_mem _ hl)

/-- **A tree that shows the document of a manifest is read as this manifest.** -/
theorem read (hmirrors : Mirrors Shows) {manifest : Manifest} (hfits : manifest.Fits)
    (h : Shows v manifest.document) : Manifest.read v = (pure manifest : m Manifest) := by
  obtain ⟨root, hroots, hroot⟩ := hmirrors.fields ["version", "pipeline"] h (by simp)
  obtain ⟨w₁, hw₁, hversion⟩ := hroot "version" _ rfl
  obtain ⟨w₂, hw₂, hpipeline⟩ := hroot "pipeline" _ rfl
  obtain ⟨field, hfields, hfield⟩ := hmirrors.fields
    ["name", "event_buses", "queues", "functions", "dead_letter_queue", "steps"] hpipeline (by simp)
  obtain ⟨w₃, hw₃, hname⟩ := hfield "name" _ rfl
  obtain ⟨w₄, hw₄, hbuses⟩ := hfield "event_buses" _ rfl
  obtain ⟨w₅, hw₅, hqueues⟩ := hfield "queues" _ rfl
  obtain ⟨w₆, hw₆, hfunctions⟩ := hfield "functions" _ rfl
  obtain ⟨w₇, hw₇, hdead⟩ := hfield "dead_letter_queue" _ rfl
  obtain ⟨w₈, hw₈, hsteps⟩ := hfield "steps" _ rfl
  simp [Manifest.read, hroots, hfields, required, orDefault, hw₁, hw₂, hw₃, hw₄, hw₅, hw₆, hw₇, hw₈,
    hmirrors.text hversion, hmirrors.text hname,
    hmirrors.readRegistry hmirrors.readUri hbuses, hmirrors.readRegistry hmirrors.readUri hqueues,
    hmirrors.readRegistry hmirrors.readFunction hfunctions, hmirrors.readOptionalText hdead,
    hmirrors.readSteps hfits hsteps]

end Mirrors

/-! ### Documents -/

namespace Document

theorem lift?_document {l : Lift} (hfits : l.Fits) : lift? l.document = some l := by
  cases l with
  | plain function => rfl
  | bounded function concurrency =>
    cases concurrency with
    | none => rfl
    | some n =>
      have hbound : bound? n = some n := bound?_eq_some_iff.mpr ⟨rfl, hfits function n rfl⟩
      simp [Lift.document, lift?, lookupField_cons, asText, ofNat, liftBound?, hbound]

/-- **A document shows itself.** -/
theorem mirrors : Mirrors (fun d d' : Document => d = d') where
  text := by
    rintro _ s rfl
    rfl
  nothing := by
    rintro _ rfl
    rfl
  something := by
    rintro _ s rfl
    exact ⟨_, rfl, rfl⟩
  items := by
    rintro _ ds rfl
    exact ⟨ds, rfl, List.forall₂_refl ds⟩
  entries := by
    rintro _ fs rfl
    exact ⟨fs, rfl, List.forall₂_same.mpr fun _ _ => ⟨rfl, rfl⟩⟩
  fields := by
    rintro _ fs names rfl -
    exact ⟨_, rfl, fun name d hd => ⟨d, hd, rfl⟩⟩
  word := by
    rintro _ s rfl
    rfl
  choice := by
    rintro _ name d rfl
    exact ⟨d, rfl, rfl⟩
  lift := by
    rintro _ l hfits rfl
    exact lift?_document hfits

/-- The bound of a lift that is read fits. -/
theorem fits_of_lift? {d : Document} {l : Lift} (h : lift? d = some l) : l.Fits := by
  rintro function n rfl
  unfold lift? at h
  split at h
  · simp at h
  · next fields =>
    obtain ⟨function', -, h⟩ := Option.bind_eq_some_iff.mp h
    obtain ⟨concurrency, hbound, h⟩ := Option.bind_eq_some_iff.mp h
    cases h
    unfold liftBound? at hbound
    split at hbound <;> simp at hbound
    exact (bound?_eq_some_iff.mp hbound).2
  · simp at h

end Document

namespace Manifest

theorem fits_of_readStep {d : Document} {l : Lift} (h : readStep d = some (.lift l)) : l.Fits := by
  unfold readStep at h
  obtain ⟨⟨word, value⟩, -, h⟩ := Option.bind_eq_some_iff.mp h
  -- no other word gives a lift
  split at h
  case h_4 v _ =>
    obtain ⟨l', hlift, h⟩ := Option.bind_eq_some_iff.mp h
    cases h
    exact Document.fits_of_lift? hlift
  all_goals simp [Option.bind_eq_some_iff] at h

theorem exists_of_mem_mapM {τ α : Type} {read : τ → Option α} {vs : List τ} {xs : List α} {x : α}
    (h : vs.mapM read = some xs) (hx : x ∈ xs) : ∃ v ∈ vs, read v = some x := by
  induction vs generalizing xs with
  | nil =>
    cases h
    simp at hx
  | cons v vs ih =>
    simp only [List.mapM_cons, Option.bind_eq_bind, Option.bind_eq_some_iff, Option.pure_def,
      Option.some.injEq] at h
    obtain ⟨y, hy, ys, hys, rfl⟩ := h
    rcases List.mem_cons.mp hx with rfl | hx
    · exact ⟨v, List.mem_cons_self, hy⟩
    · obtain ⟨w, hw, hread⟩ := ih hys hx
      exact ⟨w, List.mem_cons_of_mem _ hw, hread⟩

/-- **What is read from a document fits.** -/
theorem fits_of_ofDocument? {d : Document} {m : Manifest} (h : ofDocument? d = some m) :
    m.Fits := by
  simp only [ofDocument?, Manifest.read, Option.bind_eq_bind, Option.bind_eq_some_iff] at h
  -- of what is read on the way only the fields of the pipeline and the steps matter
  obtain ⟨_, -, _, -, _, -, _, -, field, -, h⟩ := h
  obtain ⟨_, -, _, -, _, -, _, -, _, -, _, -, steps, hsteps, h⟩ := h
  cases h
  intro l hl
  cases hfield : field "steps" with
  | none =>
    rw [hfield] at hsteps
    cases hsteps
    simp at hl
  | some v =>
    rw [hfield] at hsteps
    obtain ⟨vs, -, hread⟩ := Option.bind_eq_some_iff.mp hsteps
    obtain ⟨w, -, hw⟩ := exists_of_mem_mapM hread hl
    exact fits_of_readStep hw

/-- **Reading undoes writing exactly where all bounds are numbers of 64 bits.** -/
theorem ofDocument?_document_iff {m : Manifest} : ofDocument? m.document = some m ↔ m.Fits :=
  ⟨fits_of_ofDocument?, fun hfits => Document.mirrors.read hfits rfl⟩

end Manifest

end EventFlow
