/-!
# Results that may be refusals

A computation in `Except` comes to a value or stops at its first refusal. What it takes to come to a
value is read off its text, one equivalence for each way in which such a text goes on.
-/

namespace EventFlow

variable {ε α β : Type}

/-- Two computations in a row come to a value when the first one does and the second one does from
there. -/
theorem bind_eq_ok_iff {x : Except ε α} {f : α → Except ε β} {b : β} :
    x >>= f = .ok b ↔ ∃ a, x = .ok a ∧ f a = .ok b := by
  rcases x with e | a
  · exact iff_of_false (by simp [bind, Except.bind]) (by simp)
  · constructor
    · intro h
      exact ⟨a, rfl, h⟩
    · rintro ⟨a', ha, h⟩
      obtain rfl : a = a' := Except.ok.inj ha
      exact h

/-- Two checks in a row pass when both do. -/
theorem check_bind_eq_ok_iff {x : Except ε Unit} {f : Unit → Except ε β} {b : β} :
    x >>= f = .ok b ↔ x = .ok () ∧ f () = .ok b := by
  rw [bind_eq_ok_iff]
  constructor
  · rintro ⟨⟨⟩, hx, hf⟩
    exact ⟨hx, hf⟩
  · rintro ⟨hx, hf⟩
    exact ⟨(), hx, hf⟩

/-- A check that refuses under a condition passes when the condition fails and the rest passes. -/
theorem refuse_bind_eq_ok_iff {c : Prop} [Decidable c] {e : ε}
    {f : Unit → Except ε β} {x : Except ε β} {b : β} :
    (if c then throw e >>= f else x) = .ok b ↔ ¬c ∧ x = .ok b := by
  by_cases h : c
  · rw [if_pos h]
    exact iff_of_false (by simp [throw, throwThe, MonadExceptOf.throw, bind, Except.bind])
      fun hc => hc.1 h
  · rw [if_neg h, and_iff_right h]

/-- A last check passes when its condition fails. -/
theorem refuse_eq_ok_iff {c : Prop} [Decidable c] {e : ε} :
    (if c then throw e else pure () : Except ε Unit) = .ok () ↔ ¬c := by
  by_cases h : c
  · rw [if_pos h]
    exact iff_of_false (by simp [throw, throwThe, MonadExceptOf.throw]) fun hc => hc h
  · rw [if_neg h]
    exact iff_of_true rfl h

theorem map_eq_ok_iff {x : Except ε α} {f : α → β} {b : β} :
    x.map f = .ok b ↔ ∃ a, x = .ok a ∧ f a = b := by
  rcases x with e | a
  · have hmap : (Except.error e : Except ε α).map f = .error e := rfl
    rw [hmap]
    exact iff_of_false (by simp) (by simp)
  · have hmap : (Except.ok a : Except ε α).map f = .ok (f a) := rfl
    rw [hmap]
    simp

theorem mapError_eq_ok_iff {ε' : Type} {x : Except ε α} {f : ε → ε'} {a : α} :
    x.mapError f = .ok a ↔ x = .ok a := by
  rcases x with e | b
  · have hmap : (Except.error e : Except ε α).mapError f = .error (f e) := rfl
    rw [hmap]
    exact iff_of_false (by simp) (by simp)
  · have hmap : (Except.ok b : Except ε α).mapError f = .ok b := rfl
    rw [hmap, Except.ok.injEq, Except.ok.injEq]

end EventFlow
