import EventFlow.Proofs.Pipeline.Lowering

/-!
# Lowering undoes linearization

A composition is a line of operations, a pipeline a tree. The tree is read as a line again by its
listing (`EventFlow.tokens`), and the operations say which listing that should be
(`EventFlow.Operation.listing`). This file settles for which compositions there is a pipeline, and
that it is the only one with the listing of its operations.

* **A listing determines the pipeline.** The levels that lowering works on can read a listing piece
  by piece (`Levels.read?`), and reading the listing of some nodes puts these nodes on the innermost
  level, whatever the levels held before. So two pipelines with one listing are equal.
* **Two things can go wrong, in this order.** A `unit` with no fan-out to close stops the lowering
  where it stands; the operations after it do not matter. If there is none, only the last operation
  decides, since every operation but a delivery leaves a fan-out open or a node at the end that is
  no delivery.
-/

namespace EventFlow

/-! ### A listing determines the pipeline -/

namespace Levels

/-- Reads a piece of a listing; a fan-out can only end if one was begun. -/
def read? (l : Levels) : Token → Option Levels
  | .source s => some (l.push (.source s))
  | .call c => some (l.push (.call c))
  | .opening => some (l.openWith [])
  | .closing => l.close?
  | .deliver d => some (l.push (.deliver d))

mutual

theorem foldlM_read?_tokensOfNode :
    ∀ (node : Node) (l : Levels), (tokensOfNode node).foldlM read? l = some (l.push node)
  | .source _, _ => rfl
  | .call _, _ => rfl
  | .fanOut nodes, l => by
    have hinner := foldlM_read?_tokens nodes (l.openWith [])
    rw [tokensOfNode, List.foldlM_cons, read?, Option.bind_eq_bind, Option.bind_some,
      List.foldlM_append, hinner]
    rfl
  | .deliver _, _ => rfl

/-- **Reading the listing of some nodes puts them on the innermost level.** -/
theorem foldlM_read?_tokens :
    ∀ (nodes : List Node) (l : Levels),
      (EventFlow.tokens nodes).foldlM read? l = some { l with inner := l.inner ++ nodes }
  | [], l => by
    rw [List.append_nil]
    rfl
  | node :: nodes, l => by
    rw [EventFlow.tokens, List.foldlM_append, foldlM_read?_tokensOfNode node l, Option.bind_eq_bind,
      Option.bind_some, foldlM_read?_tokens nodes (l.push node)]
    simp [push]

end

end Levels

/-- **Pipelines with one listing are equal.** -/
theorem tokens_injective {p q : List Node} (h : tokens p = tokens q) : p = q := by
  have hp := Levels.foldlM_read?_tokens p {}
  rw [h, Levels.foldlM_read?_tokens q {}] at hp
  simpa using hp.symm

/-! ### Stray units -/

namespace Operation

/-- The number of open fan-outs after some operations. -/
def openAfter (depth : Nat) (ops : List Operation) : Nat :=
  ops.foldl depthAfter depth

/-- **A stray unit** stands where no fan-out is open. -/
def StrayUnit (depth : Nat) (ops : List Operation) : Prop :=
  ∃ before after, ops = before ++ unit :: after ∧ openAfter depth before = 0

theorem strayUnit_cons_iff {depth : Nat} {op : Operation} {ops : List Operation} :
    StrayUnit depth (op :: ops) ↔
      (op = unit ∧ depth = 0) ∨ StrayUnit (op.depthAfter depth) ops := by
  constructor
  · rintro ⟨before, after, hops, hopen⟩
    rcases before with _ | ⟨first, before⟩
    · exact .inl ⟨(List.cons.inj hops).1, hopen⟩
    · obtain ⟨rfl, rfl⟩ := List.cons.inj hops
      exact .inr ⟨before, after, rfl, hopen⟩
  · rintro (⟨rfl, rfl⟩ | ⟨before, after, rfl, hopen⟩)
    · exact ⟨[], ops, rfl, rfl⟩
    · exact ⟨op :: before, after, rfl, hopen⟩

/-- Operations fit when no `unit` is stray. -/
theorem fit_iff_not_strayUnit {depth : Nat} {ops : List Operation} :
    Fit depth ops ↔ ¬StrayUnit depth ops := by
  induction ops generalizing depth with
  | nil =>
    refine iff_of_true trivial ?_
    rintro ⟨before, after, hops, -⟩
    simp at hops
  | cons op ops ih =>
    rw [Fit, ih, strayUnit_cons_iff, not_or, not_and, Nat.pos_iff_ne_zero]

/-- Whether the last operation is a delivery. -/
def EndsWithDelivery (ops : List Operation) : Prop :=
  ∃ before d, ops = before ++ [deliver d]

end Operation

/-! ### What lowering refuses -/

namespace Levels

/-- **A stray unit stops the lowering**, wherever it stands. -/
theorem foldlM_apply_of_strayUnit {l : Levels} {ops : List Operation}
    (h : Operation.StrayUnit l.outer.length ops) :
    ops.foldlM apply l = .error .unitOutsideFanOut := by
  induction ops generalizing l with
  | nil =>
    obtain ⟨before, after, hops, -⟩ := h
    simp at hops
  | cons op ops ih =>
    rw [List.foldlM_cons]
    by_cases hfit : op = .unit → 0 < l.outer.length
    · -- the operation is applied, so the stray unit comes later
      obtain ⟨l', happly, hdepth, -⟩ := l.exists_apply hfit
      rcases Operation.strayUnit_cons_iff.mp h with ⟨hunit, hzero⟩ | hlater
      · exact absurd (hfit hunit) (by omega)
      · rw [happly]
        exact ih (hdepth ▸ hlater)
    · obtain ⟨rfl, hzero⟩ : op = .unit ∧ l.outer.length = 0 := by
        simpa [Nat.pos_iff_ne_zero] using hfit
      obtain ⟨inner, outer⟩ := l
      obtain rfl : outer = [] := List.length_eq_zero_iff.mp hzero
      rfl

theorem foldlM_apply_concat {l l' : Levels} {ops : List Operation} {op : Operation}
    (h : (ops ++ [op]).foldlM apply l = .ok l') :
    ∃ l₁, ops.foldlM apply l = .ok l₁ ∧ l₁.apply op = .ok l' := by
  rw [List.foldlM_append] at h
  rcases hfirst : ops.foldlM apply l with e | l₁
  · rw [hfirst] at h
    cases h
  · rw [hfirst] at h
    have hlast : (l₁.apply op >>= fun l => pure l) = .ok l' := h
    exact ⟨l₁, rfl, by simpa using hlast⟩

/-- After a delivery the pipeline is finished. -/
theorem finish_of_apply_deliver {l l' : Levels} {d : Delivery} (h : l.apply (.deliver d) = .ok l') :
    l'.finish = .ok l'.inner ∧ l'.outer = [] := by
  obtain rfl : { inner := l.closeAll ++ [.deliver d] } = l' := Except.ok.inj h
  refine ⟨?_, rfl⟩
  rw [finish, List.getLast?_concat]

/-- **After any other operation a delivery is missing**: a fan-out is open, or a call or a fan-out
stands last. -/
theorem finish_of_apply {l l' : Levels} {op : Operation} (h : l.apply op = .ok l')
    (hop : ∀ d, op ≠ .deliver d) : l'.finish = .error .noSink := by
  cases op with
  | join c =>
    obtain rfl : l.push (.call c) = l' := Except.ok.inj h
    rcases hout : l.outer with _ | ⟨chain, outer⟩ <;> simp [finish, push, hout]
  | lift c =>
    obtain rfl : l.openWith [.call c] = l' := Except.ok.inj h
    rfl
  | wrap =>
    obtain rfl : l.openWith [] = l' := Except.ok.inj h
    rfl
  | unit =>
    obtain ⟨inner, _ | ⟨chain, outer⟩⟩ := l
    · simp [apply, close?] at h
    · obtain rfl : l' = ⟨chain ++ [.fanOut inner], outer⟩ := (Except.ok.inj h).symm
      cases outer <;> simp [finish]
  | deliver d => exact absurd rfl (hop d)

end Levels

namespace Composition

/-- **A composition with a stray unit is refused for it**, whatever else it holds. -/
theorem lower_of_strayUnit {c : Composition} (h : Operation.StrayUnit 0 c.operations) :
    c.lower = .error .unitOutsideFanOut := by
  have hstop : c.operations.foldlM Levels.apply { inner := [.source c.source] } =
      .error .unitOutsideFanOut := Levels.foldlM_apply_of_strayUnit h
  rw [lower, hstop]
  rfl

/-- **A composition without a stray unit lowers to the pipeline with the listing of its operations**
if a delivery comes last, and is refused for the missing delivery otherwise. -/
theorem lower_of_not_strayUnit {c : Composition} (h : ¬Operation.StrayUnit 0 c.operations) :
    (Operation.EndsWithDelivery c.operations ∧ ∃ p, c.lower = .ok p ∧
        tokens p = .source c.source :: Operation.listing 0 c.operations) ∨
      (¬Operation.EndsWithDelivery c.operations ∧ c.lower = .error .noSink) := by
  have hfit := Operation.fit_iff_not_strayUnit.mpr h
  obtain ⟨l, hl, htokens⟩ := Levels.exists_foldlM_apply { inner := [.source c.source] } hfit
  have hlower : c.lower = l.finish := by
    rw [lower, hl]
    rfl
  rcases List.eq_nil_or_concat c.operations with hnil | ⟨before, op, hops⟩
  · refine .inr ⟨?_, ?_⟩
    · rintro ⟨before, d, hends⟩
      simp [hnil] at hends
    · rw [hnil] at hl
      obtain rfl : { inner := [.source c.source] } = l := Except.ok.inj hl
      rw [hlower]
      rfl
  · -- the last operation is applied to what the others leave, and decides
    rw [List.concat_eq_append] at hops
    rw [hops] at hl
    obtain ⟨l₁, -, hlast⟩ := Levels.foldlM_apply_concat hl
    by_cases hdeliver : ∃ d, op = .deliver d
    · obtain ⟨d, rfl⟩ := hdeliver
      obtain ⟨hfinish, houter⟩ := Levels.finish_of_apply_deliver hlast
      refine .inl ⟨⟨before, d, hops⟩, l.inner, hlower.trans hfinish, ?_⟩
      simpa [Levels.tokens, houter, Levels.outerTokens, tokensOfNode] using htokens
    · refine .inr ⟨?_, ?_⟩
      · rintro ⟨before', d, hends⟩
        rw [hops] at hends
        exact hdeliver ⟨d, by simpa using (List.append_inj' hends rfl).2⟩
      · rw [hlower]
        exact Levels.finish_of_apply hlast fun d hd => hdeliver ⟨d, hd⟩

/-- **Lowering is the inverse of linearization.** A composition is refused with one code exactly
when a `unit` stands where no fan-out is open, with another one exactly when there is no such `unit`
and the last operation is no delivery, and lowers otherwise. The pipeline that it lowers to is the
one whose listing is the source and the listing of the operations, and no other pipeline has that
listing. -/
theorem lower_inverts_linearization (c : Composition) :
    ((∃ e, c.lower = .error e ∧ e.diagnostic.code = "PIPE-COMP-002") ↔
        Operation.StrayUnit 0 c.operations) ∧
      ((∃ e, c.lower = .error e ∧ e.diagnostic.code = "PIPE-COMP-003") ↔
        ¬Operation.StrayUnit 0 c.operations ∧ ¬Operation.EndsWithDelivery c.operations) ∧
      ((∃ p, c.lower = .ok p) ↔
        ¬Operation.StrayUnit 0 c.operations ∧ Operation.EndsWithDelivery c.operations) ∧
      ∀ p, c.lower = .ok p ↔
        ¬Operation.StrayUnit 0 c.operations ∧ Operation.EndsWithDelivery c.operations ∧
          tokens p = .source c.source :: Operation.listing 0 c.operations := by
  by_cases hstray : Operation.StrayUnit 0 c.operations
  · simp [lower_of_strayUnit hstray, hstray, CompositionError.diagnostic]
  · rcases lower_of_not_strayUnit hstray with ⟨hends, p, hlower, htokens⟩ | ⟨hends, hlower⟩
    · refine ⟨by simp [hlower, hstray], by simp [hlower, hends], by simp [hlower, hstray, hends],
        fun q => ?_⟩
      rw [hlower, Except.ok.injEq, and_iff_right hstray, and_iff_right hends, ← htokens]
      exact ⟨fun hq => congrArg tokens hq.symm, fun hq => tokens_injective hq.symm⟩
    · simp [hlower, hstray, hends, CompositionError.diagnostic]

end Composition

end EventFlow
