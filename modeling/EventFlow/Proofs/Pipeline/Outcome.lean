import EventFlow.Pipeline.Walk

/-!
# The outcome of a step that may refuse

A visitor works in steps that change a state and may refuse. `outcome` runs such a step from a
state: it gives the value or the refusal **together with the state that is left**, also after a
refusal. One equation for each way to build a step is enough to run any of them, and the equations
for `>>=` are the ones a walk needs: a refusal ends it where it stands.

A sequence of hooks that are called one after the other, whatever became of those before, is
`visitAll`; it is how a visitor is used by a caller that does not stop at a refusal. What every hook
keeps, refused or not, is kept by such a sequence and by a walk alike (`visitAll_induction`,
`keeps_walk`).
-/

namespace EventFlow

section Outcome

variable {ε σ α β : Type}

/-- What a step gives from a state: its value or its refusal, and the state it leaves. -/
def outcome (m : ExceptT ε (StateM σ) α) (s : σ) : Except ε α × σ :=
  m.run.run s

@[simp] theorem outcome_pure (a : α) (s : σ) :
    outcome (pure a : ExceptT ε (StateM σ) α) s = (.ok a, s) := rfl

@[simp] theorem outcome_throw (e : ε) (s : σ) :
    outcome (throw e : ExceptT ε (StateM σ) α) s = (.error e, s) := rfl

@[simp] theorem outcome_get (s : σ) : outcome (get : ExceptT ε (StateM σ) σ) s = (.ok s, s) := rfl

@[simp] theorem outcome_set (s t : σ) :
    outcome (set t : ExceptT ε (StateM σ) PUnit) s = (.ok ⟨⟩, t) := rfl

@[simp] theorem outcome_modify (f : σ → σ) (s : σ) :
    outcome (modify f : ExceptT ε (StateM σ) PUnit) s = (.ok ⟨⟩, f s) := rfl

/-- **Steps in a row**: the second one runs from where the first one left, unless that refused. -/
theorem outcome_bind (m : ExceptT ε (StateM σ) α) (f : α → ExceptT ε (StateM σ) β) (s : σ) :
    outcome (m >>= f) s = match outcome m s with
      | (.ok a, t) => outcome (f a) t
      | (.error e, t) => (.error e, t) := by
  simp only [outcome, ExceptT.run_bind, StateT.run_bind]
  rcases m.run.run s with ⟨_ | _, t⟩ <;> rfl

theorem outcome_bind_ok {m : ExceptT ε (StateM σ) α} {f : α → ExceptT ε (StateM σ) β} {s t : σ}
    {a : α} (h : outcome m s = (.ok a, t)) : outcome (m >>= f) s = outcome (f a) t := by
  rw [outcome_bind, h]

theorem outcome_bind_error {m : ExceptT ε (StateM σ) α} {f : α → ExceptT ε (StateM σ) β} {s : σ}
    {e : ε} (h : (outcome m s).1 = .error e) : (outcome (m >>= f) s).1 = .error e := by
  rcases hr : outcome m s with ⟨r, t⟩
  rw [hr] at h
  obtain rfl : r = .error e := h
  rw [outcome_bind, hr]

end Outcome

section Visitor

variable {ε σ : Type}

/-- The state after hooks were called one after the other, refused or not. -/
def visitAll (visit : Visitor ε σ) (s : σ) (hooks : List Hook) : σ :=
  hooks.foldl (fun s hook => (outcome (visit hook) s).2) s

/-- **What every hook keeps, every sequence of hooks keeps.** -/
theorem visitAll_induction {visit : Visitor ε σ} {P : σ → Prop}
    (step : ∀ hook s, P s → P (outcome (visit hook) s).2) {s : σ} (hs : P s) (hooks : List Hook) :
    P (visitAll visit s hooks) := by
  induction hooks generalizing s with
  | nil => exact hs
  | cons hook hooks ih => exact ih (step hook s hs)

/-- A step that keeps a property of the state, whether it refuses or not. -/
def Keeps {α : Type} (P : σ → Prop) (m : ExceptT ε (StateM σ) α) : Prop :=
  ∀ s, P s → P (outcome m s).2

theorem Keeps.bind {α β : Type} {P : σ → Prop} {m : ExceptT ε (StateM σ) α}
    {f : α → ExceptT ε (StateM σ) β} (hm : Keeps P m) (hf : ∀ a, Keeps P (f a)) :
    Keeps P (m >>= f) := by
  intro s hs
  have hafter := hm s hs
  rw [outcome_bind]
  generalize outcome m s = r at hafter ⊢
  obtain ⟨_ | a, t⟩ := r
  · exact hafter
  · exact hf a t hafter

variable {visit : Visitor ε σ} {P : σ → Prop} (misplaced : Misplaced → ε)

mutual

theorem keeps_walkNode (h : ∀ hook, Keeps P (visit hook)) :
    ∀ (node : Node) (depth index : Nat) (isLast : Bool),
      Keeps P (walkNode misplaced visit depth index isLast node)
  | .source s, depth, index, isLast => by
    rw [walkNode]
    split
    · exact (h _).bind fun _ => h _
    · exact fun _ hs => hs
  | .call c, _, _, _ => (h _).bind fun _ => h _
  | .fanOut nodes, depth, _, _ =>
    (h _).bind fun _ => (keeps_walkNodes h nodes (depth + 1) 0).bind fun _ => h _
  | .deliver d, depth, index, isLast => by
    rw [walkNode]
    split
    · exact (h _).bind fun _ => h _
    · exact fun _ hs => hs

theorem keeps_walkNodes (h : ∀ hook, Keeps P (visit hook)) :
    ∀ (nodes : List Node) (depth index : Nat),
      Keeps P (walkNodes misplaced visit depth index nodes)
  | [], _, _ => fun _ hs => hs
  | node :: nodes, depth, index =>
    (keeps_walkNode h node depth index nodes.isEmpty).bind fun _ =>
      keeps_walkNodes h nodes depth (index + 1)

end

/-- **What every hook keeps, every walk keeps**, wherever it ends. -/
theorem keeps_walk (h : ∀ hook, Keeps P (visit hook)) (p : Pipeline) :
    Keeps P (walk misplaced visit p) :=
  (h _).bind fun _ => (keeps_walkNodes misplaced h p 0 0).bind fun _ => h _

end Visitor

end EventFlow
