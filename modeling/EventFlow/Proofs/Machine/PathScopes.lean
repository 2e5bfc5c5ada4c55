import EventFlow.Machine.Path
import Mathlib.Data.List.Infix

/-!
# Scopes of paths nest

While states are laid out, the tracker of paths is moved in many orders: functions are called inside
a fan-out, fan-outs open inside fan-outs, and each is closed in one of two ways. This file shows
that none of it reaches a scope that was open before. **Opening a scope and closing it after any
balanced sequence of moves gives back the tracker**: collapsing restores all of it, and a close that
leaves a result restores all but the current path, which is then the path of the result
(`closing_undoes_opening`).

The current path is overwritten freely on the way, so the argument is on the open scopes alone.
`Above base n scopes` says that `n` scopes are open inside those in `base`. A move changes `n` by
what it opens and closes (`Above.run`), and moves that at no point close more than is open above
`base` leave `base` untouched (`Above.runAll`).
-/

namespace EventFlow.Machine.PathTracker

/-! ### Moves -/

/-- What a tracker is told while states are laid out. -/
inductive Move where
  | enterEvent
  | enterResult
  | pushScope
  | popScope
  | collapseScope
  deriving DecidableEq, Repr

/-- Makes a move: what it returns, and the tracker after it. A move that opens or closes a fan-out
returns where its list is. -/
def Move.run : Move → PathTracker → Option Path × PathTracker
  | enterEvent, t => (none, t.enterEvent)
  | enterResult, t => (none, t.enterResult)
  | pushScope, t => (some t.current, t.pushScope)
  | popScope, t => (t.items?, t.popScope)
  | collapseScope, t => (t.items?, t.collapseScope)

/-- The tracker after a sequence of moves. -/
def runAll (moves : List Move) (t : PathTracker) : PathTracker :=
  moves.foldl (fun t move => (move.run t).2) t

theorem collapseScope_scopes (t : PathTracker) : t.collapseScope.scopes = t.scopes.tail := by
  rw [collapseScope]
  split
  next hscopes => rw [hscopes, List.tail_nil]
  next hscopes => rw [hscopes, List.tail_cons]

/-! ### Balance -/

/-- The number of scopes that moves open. -/
def opens (moves : List Move) : Nat :=
  moves.count .pushScope

/-- The number of scopes that moves close, in either way. -/
def closes (moves : List Move) : Nat :=
  moves.count .popScope + moves.count .collapseScope

/-- **Balanced moves**: at no point were more scopes closed than opened, and in the end as many. -/
structure Balanced (moves : List Move) : Prop where
  closes_le_opens : ∀ p, p <+: moves → closes p ≤ opens p
  closes_eq_opens : closes moves = opens moves

instance (moves : List Move) : Decidable (Balanced moves) :=
  decidable_of_iff ((∀ p ∈ moves.inits, closes p ≤ opens p) ∧ closes moves = opens moves)
    ⟨fun h => ⟨fun p hp => h.1 p ((List.mem_inits p moves).2 hp), h.2⟩,
      fun h => ⟨fun p hp => h.1 p ((List.mem_inits p moves).1 hp), h.2⟩⟩

theorem opens_cons (move : Move) (moves : List Move) :
    opens (move :: moves) = opens [move] + opens moves := by
  simp only [opens, List.count_cons, List.count_nil]
  omega

theorem closes_cons (move : Move) (moves : List Move) :
    closes (move :: moves) = closes [move] + closes moves := by
  simp only [closes, List.count_cons, List.count_nil]
  omega

/-! ### Scopes above a base -/

/-- The scopes in `base` are open, and `n` more inside them. -/
def Above (base : List Path) (n : Nat) (scopes : List Path) : Prop :=
  ∃ inner : List Path, inner.length = n ∧ scopes = inner ++ base

variable {base scopes : List Path} {n m : Nat} {t : PathTracker} {items : Path}

theorem above_zero_iff : Above base 0 scopes ↔ scopes = base := by
  constructor
  · rintro ⟨inner, hlength, rfl⟩
    rw [List.eq_nil_of_length_eq_zero hlength, List.nil_append]
  · intro h
    exact ⟨[], rfl, h⟩

theorem Above.cons (h : Above base n scopes) (items : Path) :
    Above base (n + 1) (items :: scopes) := by
  obtain ⟨inner, rfl, rfl⟩ := h
  exact ⟨items :: inner, rfl, rfl⟩

theorem Above.tail (h : Above base (n + 1) scopes) : Above base n scopes.tail := by
  obtain ⟨inner, hlength, rfl⟩ := h
  obtain ⟨items, inner, rfl⟩ := List.exists_cons_of_length_eq_add_one hlength
  exact ⟨inner, Nat.succ.inj hlength, rfl⟩

/-- **One move** opens or closes a scope above the base, as long as it finds one there to close. -/
theorem Above.run (h : Above base n t.scopes) (move : Move)
    (hm : m + closes [move] = n + opens [move]) : Above base m (move.run t).2.scopes := by
  cases move with
  | enterEvent =>
    obtain rfl : m = n := hm
    exact h
  | enterResult =>
    obtain rfl : m = n := hm
    exact h
  | pushScope =>
    obtain rfl : m = n + 1 := hm
    exact h.cons t.current
  | popScope =>
    obtain rfl : m + 1 = n := hm
    exact h.tail
  | collapseScope =>
    obtain rfl : m + 1 = n := hm
    show Above base m t.collapseScope.scopes
    rw [collapseScope_scopes]
    exact h.tail

/-- **A sequence of moves** that at no point closes more than is open above the base leaves the base
as it was, with as many scopes above it as the moves left open. -/
theorem Above.runAll {moves : List Move} (h : Above base n t.scopes)
    (hbound : ∀ p, p <+: moves → closes p ≤ n + opens p)
    (hm : m + closes moves = n + opens moves) : Above base m (runAll moves t).scopes := by
  induction moves generalizing n t with
  | nil =>
    obtain rfl : m = n := hm
    exact h
  | cons move moves ih =>
    have hfirst : closes [move] ≤ n + opens [move] := hbound [move] ⟨moves, rfl⟩
    obtain ⟨k, hk⟩ := Nat.exists_eq_add_of_le' hfirst
    refine ih (h.run move hk.symm) ?_ ?_
    · -- a prefix of the rest, with the first move before it, is a prefix of all
      intro p hp
      have hall := hbound (move :: p) (List.cons_prefix_cons.2 ⟨rfl, hp⟩)
      rw [closes_cons, opens_cons] at hall
      omega
    · rw [closes_cons, opens_cons] at hm
      omega

/-! ### Opening and closing -/

/-- After balanced moves the scope opened before them is the innermost one, and those below it are
as they were. -/
theorem runAll_pushScope_scopes {moves : List Move} (h : Balanced moves) (d : PathTracker) :
    (runAll (.pushScope :: moves) d).scopes = d.current :: d.scopes := by
  have hopen : Above (d.current :: d.scopes) 0 d.pushScope.scopes := above_zero_iff.2 rfl
  have hclosed : Above (d.current :: d.scopes) 0 (runAll moves d.pushScope).scopes := by
    refine hopen.runAll (fun p hp => ?_) ?_
    · rw [Nat.zero_add]
      exact h.closes_le_opens p hp
    · rw [h.closes_eq_opens]
  exact above_zero_iff.1 hclosed

theorem run_collapseScope (h : t.scopes = items :: scopes) :
    Move.collapseScope.run t = (some items, ⟨items, scopes⟩) := by
  rw [Move.run, items?, collapseScope, h, List.head?_cons]

theorem run_popScope (h : t.scopes = items :: scopes) :
    Move.popScope.run t = (some items, ⟨.payload, scopes⟩) := by
  rw [Move.run, items?, popScope, h, List.head?_cons, List.tail_cons]

/-- **Closing undoes opening.** When a scope is opened, balanced moves follow, and the scope is
closed, the close returns the path that was current before. If it collapses the scope, the tracker
is exactly what it was; if it leaves a result, the open scopes are what they were, and the path of
the result is current. -/
theorem closing_undoes_opening (d : PathTracker) {moves : List Move} (h : Balanced moves) :
    Move.collapseScope.run (runAll (.pushScope :: moves) d) = (some d.current, d) ∧
      Move.popScope.run (runAll (.pushScope :: moves) d) =
        (some d.current, { d with current := .payload }) := by
  have hscopes := runAll_pushScope_scopes h d
  exact ⟨run_collapseScope hscopes, run_popScope hscopes⟩

/-- Moves that overwrite the current path, open scopes in one another and after one another, and
close them in both ways. -/
def windingMoves : List Move :=
  [.enterResult, .pushScope, .enterEvent, .pushScope, .collapseScope, .enterResult, .popScope,
    .pushScope, .popScope, .enterEvent]

theorem closing_undoes_opening_windingMoves :
    Balanced windingMoves ∧
      Move.collapseScope.run (runAll (.pushScope :: windingMoves) ⟨.detail, [.payload, .root]⟩) =
        (some .detail, ⟨.detail, [.payload, .root]⟩) ∧
      Move.popScope.run (runAll (.pushScope :: windingMoves) ⟨.detail, [.payload, .root]⟩) =
        (some .detail, ⟨.payload, [.payload, .root]⟩) :=
  ⟨by decide, closing_undoes_opening ⟨.detail, [.payload, .root]⟩ (by decide)⟩

end EventFlow.Machine.PathTracker
