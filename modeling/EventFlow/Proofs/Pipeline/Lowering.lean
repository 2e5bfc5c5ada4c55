import EventFlow.Pipeline.Composition

/-!
# What lowering makes of a composition

Lowering keeps the nodes of every open fan-out on a stack of levels. Two readings of that stack are
enough to say what comes out of it, and each operation moves both of them by an equation.

* **The listing** of a pipeline is its nodes depth first, with a mark where a fan-out begins and
  where it ends. An operation puts a few marks at the end of the listing of the levels
  (`Operation.tokens`), so the listing of the whole is read off the operations
  (`exists_foldlM_apply`).
* **The source stands in front of everything**, and nothing that comes after it looks at it. So a
  composition that ends with a delivery lowers to the source, a body and the delivery, and the body
  is what the operations in between make of nothing at all (`lower_deliver`).
-/

namespace EventFlow

/-! ### Listings -/

/-- A piece of the listing of a pipeline. -/
inductive Token where
  | source (source : Source)
  | call (call : Call)
  /-- A fan-out begins. -/
  | opening
  /-- A fan-out ends. -/
  | closing
  | deliver (delivery : Delivery)
  deriving DecidableEq, Repr

mutual

/-- The listing of a node. -/
def tokensOfNode : Node → List Token
  | .source s => [.source s]
  | .call c => [.call c]
  | .fanOut nodes => .opening :: (tokens nodes ++ [.closing])
  | .deliver d => [.deliver d]

/-- **The listing of a chain**: its nodes depth first, fan-outs between two marks. -/
def tokens : List Node → List Token
  | [] => []
  | node :: nodes => tokensOfNode node ++ tokens nodes

end

@[simp] theorem tokens_append (nodes nodes' : List Node) :
    tokens (nodes ++ nodes') = tokens nodes ++ tokens nodes' := by
  induction nodes with
  | nil => rfl
  | cons node nodes ih => simp [tokens, ih]

@[simp] theorem tokens_singleton (node : Node) : tokens [node] = tokensOfNode node := by
  simp [tokens]

namespace Operation

/-- The number of open fan-outs after an operation. -/
def depthAfter (depth : Nat) : Operation → Nat
  | join _ => depth
  | lift _ => depth + 1
  | wrap => depth + 1
  | unit => depth - 1
  | deliver _ => 0

/-- **What an operation adds to a listing**, given the number of open fan-outs. -/
def tokens (depth : Nat) : Operation → List Token
  | join c => [.call c]
  | lift c => [.opening, .call c]
  | wrap => [.opening]
  | unit => [.closing]
  | deliver d => List.replicate depth .closing ++ [.deliver d]

/-- The listing that operations add one after the other. -/
def listing (depth : Nat) : List Operation → List Token
  | [] => []
  | op :: ops => op.tokens depth ++ listing (op.depthAfter depth) ops

/-- **Operations that fit**: each `unit` finds a fan-out that it can close. -/
def Fit (depth : Nat) : List Operation → Prop
  | [] => True
  | op :: ops => (op = unit → 0 < depth) ∧ Fit (op.depthAfter depth) ops

end Operation

namespace Levels

/-- The listing of the chains around the innermost one, whose fan-outs are not ended. -/
def outerTokens : List (List Node) → List Token
  | [] => []
  | chain :: outer => outerTokens outer ++ EventFlow.tokens chain ++ [.opening]

/-- The listing of what is composed so far. -/
def tokens (l : Levels) : List Token :=
  outerTokens l.outer ++ EventFlow.tokens l.inner

theorem tokens_push (l : Levels) (node : Node) :
    (l.push node).tokens = l.tokens ++ tokensOfNode node := by
  simp [tokens, push]

theorem tokens_openWith (l : Levels) (nodes : List Node) :
    (l.openWith nodes).tokens = l.tokens ++ .opening :: EventFlow.tokens nodes := by
  simp [tokens, openWith, outerTokens]

theorem closeAll_cons (inner chain : List Node) (outer : List (List Node)) :
    closeAll ⟨inner, chain :: outer⟩ = closeAll ⟨chain ++ [.fanOut inner], outer⟩ :=
  rfl

/-- Closing all levels ends the fan-outs that are open. -/
theorem tokens_closeAll (l : Levels) :
    EventFlow.tokens l.closeAll = l.tokens ++ List.replicate l.outer.length .closing := by
  obtain ⟨inner, outer⟩ := l
  induction outer generalizing inner with
  | nil => simp [closeAll, tokens, outerTokens]
  | cons chain outer ih =>
    rw [closeAll_cons, ih]
    simp [tokens, outerTokens, tokensOfNode, List.replicate_succ]

/-- Closing each open fan-out closes all of them. -/
theorem foldlM_apply_replicate_unit (l : Levels) :
    (List.replicate l.outer.length Operation.unit).foldlM apply l = .ok ⟨l.closeAll, []⟩ := by
  obtain ⟨inner, outer⟩ := l
  induction outer generalizing inner with
  | nil => rfl
  | cons chain outer ih => exact ih (chain ++ [.fanOut inner])

/-- **An operation that fits is applied**, and moves the listing and the number of open fan-outs as
it says. -/
theorem exists_apply (l : Levels) {op : Operation} (h : op = .unit → 0 < l.outer.length) :
    ∃ l', l.apply op = .ok l' ∧ l'.outer.length = op.depthAfter l.outer.length ∧
      l'.tokens = l.tokens ++ op.tokens l.outer.length := by
  cases op with
  | join c => exact ⟨_, rfl, rfl, l.tokens_push (.call c)⟩
  | lift c => exact ⟨_, rfl, rfl, l.tokens_openWith [.call c]⟩
  | wrap => exact ⟨_, rfl, rfl, l.tokens_openWith []⟩
  | unit =>
    obtain ⟨inner, _ | ⟨chain, outer⟩⟩ := l
    · exact absurd (h rfl) (Nat.lt_irrefl 0)
    · refine ⟨_, rfl, rfl, ?_⟩
      simp [tokens, outerTokens, tokensOfNode, Operation.tokens]
  | deliver d =>
    refine ⟨_, rfl, rfl, ?_⟩
    simp [tokens, outerTokens, tokens_closeAll, tokensOfNode, Operation.tokens]

/-- An operation that is applied moves the number of open fan-outs as it says. -/
theorem length_outer_of_apply {l l' : Levels} {op : Operation} (h : l.apply op = .ok l') :
    l'.outer.length = op.depthAfter l.outer.length := by
  have hfit : op = .unit → 0 < l.outer.length := by
    rintro rfl
    obtain ⟨inner, _ | ⟨chain, outer⟩⟩ := l
    · simp [apply, close?] at h
    · exact Nat.succ_pos _
  obtain ⟨l₁, happly, hdepth, -⟩ := l.exists_apply hfit
  obtain rfl : l₁ = l' := Except.ok.inj (happly.symm.trans h)
  exact hdepth

/-- **Operations that fit are applied one after the other**, and the listing grows by theirs. -/
theorem exists_foldlM_apply (l : Levels) {ops : List Operation}
    (h : Operation.Fit l.outer.length ops) :
    ∃ l', ops.foldlM apply l = .ok l' ∧
      l'.tokens = l.tokens ++ Operation.listing l.outer.length ops := by
  induction ops generalizing l with
  | nil => exact ⟨l, rfl, (List.append_nil _).symm⟩
  | cons op ops ih =>
    obtain ⟨l₁, happly, hdepth, htokens⟩ := l.exists_apply h.1
    obtain ⟨l₂, hrest, hlisting⟩ := ih l₁ (hdepth ▸ h.2)
    refine ⟨l₂, ?_, ?_⟩
    · rw [List.foldlM_cons, happly]
      exact hrest
    · rw [hlisting, htokens, hdepth, Operation.listing, List.append_assoc]

/-! ### The source in front -/

/-- The levels with a node in front of the top-level chain, which is the last one. -/
def under (node : Node) (inner : List Node) : List (List Node) → Levels
  | [] => ⟨node :: inner, []⟩
  | chain :: outer => ⟨inner, (under node chain outer).inner :: (under node chain outer).outer⟩

/-- The levels with a node in front of the top-level chain. -/
def below (node : Node) (l : Levels) : Levels :=
  under node l.inner l.outer

theorem below_push (node : Node) (l : Levels) (last : Node) :
    (l.push last).below node = (l.below node).push last := by
  obtain ⟨inner, _ | ⟨chain, outer⟩⟩ := l <;> rfl

theorem below_close? (node : Node) (l : Levels) :
    (l.below node).close? = l.close?.map (below node) := by
  obtain ⟨inner, _ | ⟨chain, outer⟩⟩ := l
  · rfl
  · exact congrArg some (below_push node ⟨chain, outer⟩ (.fanOut inner)).symm

theorem closeAll_below (node : Node) (l : Levels) :
    (l.below node).closeAll = node :: l.closeAll := by
  obtain ⟨inner, outer⟩ := l
  induction outer generalizing inner with
  | nil => rfl
  | cons chain outer ih =>
    have hpush := below_push node ⟨chain, outer⟩ (.fanOut inner)
    calc (below node ⟨inner, chain :: outer⟩).closeAll
        = ((below node ⟨chain, outer⟩).push (.fanOut inner)).closeAll := rfl
      _ = (below node ⟨chain ++ [.fanOut inner], outer⟩).closeAll := congrArg closeAll hpush.symm
      _ = node :: closeAll ⟨inner, chain :: outer⟩ := ih _

/-- **No operation looks at the node in front.** -/
theorem apply_below (node : Node) (l : Levels) (op : Operation) :
    (l.below node).apply op = (l.apply op).map (below node) := by
  cases op with
  | join c => exact congrArg Except.ok (below_push node l (.call c)).symm
  | lift c => rfl
  | wrap => rfl
  | unit =>
    simp only [apply, below_close?]
    cases l.close? <;> rfl
  | deliver d =>
    simp only [apply, closeAll_below]
    rfl

theorem foldlM_apply_below (node : Node) (l : Levels) (ops : List Operation) :
    ops.foldlM apply (l.below node) = (ops.foldlM apply l).map (below node) := by
  induction ops generalizing l with
  | nil => rfl
  | cons op ops ih =>
    rw [List.foldlM_cons, List.foldlM_cons, apply_below]
    rcases l.apply op with e | l'
    · rfl
    · exact ih l'

end Levels

namespace Composition

/-- **What a composition with a delivery at its end lowers to**: the source, the nodes that the
operations in between make of nothing, and the delivery. -/
theorem lower_deliver (s : Source) (d : Delivery) {ops : List Operation} {l : Levels}
    (h : ops.foldlM Levels.apply {} = .ok l) :
    lower ⟨s, ops ++ [.deliver d]⟩ = .ok (.source s :: (l.closeAll ++ [.deliver d])) := by
  have hops : ops.foldlM Levels.apply { inner := [.source s] } = .ok (l.below (.source s)) := by
    rw [show ({ inner := [.source s] } : Levels) = Levels.below (.source s) {} from rfl,
      Levels.foldlM_apply_below, h]
    rfl
  have hall : (ops ++ [Operation.deliver d]).foldlM Levels.apply { inner := [.source s] } =
      .ok { inner := (l.below (.source s)).closeAll ++ [Node.deliver d] } := by
    rw [List.foldlM_append, hops]
    rfl
  unfold lower
  rw [hall, Levels.closeAll_below]
  show Levels.finish _ = _
  rw [Levels.finish, List.getLast?_concat]
  rfl

end Composition

end EventFlow
