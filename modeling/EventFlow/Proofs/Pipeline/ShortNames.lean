import EventFlow.Pipeline.TypeName
import Mathlib.Data.List.Chain

/-!
# Short names of types

`shorten` reads a name from left to right with the path it is in the middle of, and writes the last
part of that path when the path ends. This file shows what comes of it for whole names
(`shorten_componentwise`): **no double colon is left, a name without one is kept, and a name is
shortened piece by piece**, with everything between two paths in place; a path in front of a piece
is dropped.

Every statement about the loop is for any path `path` that is pending, written in reverse as the
loop has it, and so about the text `path.reverse ++ cs`. That a text holds no double colon is said
of its neighbours (`ColonsApart`), so that it can be taken from the two sides of a separator and
through the reversal.
-/

namespace EventFlow

/-! ### Texts without a double colon -/

/-- No two colons stand next to each other. -/
def ColonsApart (cs : List Char) : Prop :=
  cs.IsChain fun a b => ¬ (a = ':' ∧ b = ':')

theorem colonsApart_iff {cs : List Char} : ColonsApart cs ↔ ¬ "::".toList <:+: cs := by
  rw [ColonsApart, List.isChain_iff_forall_rel_of_append_cons_cons]
  constructor
  · rintro h ⟨u, v, rfl⟩
    exact h (show u ++ "::".toList ++ v = u ++ ':' :: ':' :: v by simp) ⟨rfl, rfl⟩
  · rintro h _ _ u v rfl ⟨rfl, rfl⟩
    exact h ⟨u, v, by simp⟩

theorem colonsApart_reverse {cs : List Char} : ColonsApart cs.reverse ↔ ColonsApart cs := by
  rw [ColonsApart, List.isChain_reverse, ColonsApart]
  simp only [and_comm]

/-- What stands on the two sides of a character that is no colon does not meet. -/
theorem colonsApart_append_cons {a b : List Char} {c : Char} (hc : c ≠ ':') :
    ColonsApart (a ++ c :: b) ↔ ColonsApart a ∧ ColonsApart b := by
  rw [ColonsApart, List.isChain_append, List.isChain_cons]
  constructor
  · rintro ⟨ha, ⟨-, hb⟩, -⟩
    exact ⟨ha, hb⟩
  · rintro ⟨ha, hb⟩
    refine ⟨ha, ⟨fun _ _ h => hc h.1, hb⟩, ?_⟩
    rintro x - y hy ⟨-, rfl⟩
    exact hc (Option.some.inj hy)

/-! ### The last part of a path -/

theorem takeToColons_cons {c : Char} {cs : List Char} (h : c = ':' → cs.head? ≠ some ':') :
    takeToColons (c :: cs) = c :: takeToColons cs := by
  rw [takeToColons]
  rintro tail hc rfl
  exact h hc rfl

theorem takeToColons_prefix (path : List Char) : takeToColons path <+: path := by
  fun_induction takeToColons path with
  | case1 => exact List.prefix_rfl
  | case2 cs => exact List.nil_prefix
  | case3 c cs _ ih => exact List.cons_prefix_cons.2 ⟨rfl, ih⟩

theorem colonsApart_takeToColons (path : List Char) : ColonsApart (takeToColons path) := by
  fun_induction takeToColons path with
  | case1 => exact .nil
  | case2 cs => exact .nil
  | case3 c cs hcolons ih =>
    refine List.isChain_cons.2 ⟨?_, ih⟩
    -- the next character that is kept is the next one of the path
    rintro y hy ⟨rfl, rfl⟩
    obtain ⟨rest, hrest⟩ := List.head?_eq_some_iff.1 hy
    obtain ⟨dropped, hpath⟩ := takeToColons_prefix cs
    exact hcolons (rest ++ dropped) rfl (by rw [← hpath, hrest, List.cons_append])

theorem takeToColons_of_colonsApart {path : List Char} (h : ColonsApart path) :
    takeToColons path = path := by
  fun_induction takeToColons path with
  | case1 => rfl
  | case2 cs => exact absurd ⟨rfl, rfl⟩ (List.isChain_cons_cons.1 h).1
  | case3 c cs _ ih => rw [ih h.tail]

/-- A path that goes on behind a double colon has the last part of what comes there. -/
theorem takeToColons_append_colons {path : List Char} (h : path.getLast? ≠ some ':')
    (front : List Char) : takeToColons (path ++ ':' :: ':' :: front) = takeToColons path := by
  fun_induction takeToColons path with
  | case1 => rfl
  | case2 cs => rfl
  | case3 c cs hcolons ih =>
    rcases cs with _ | ⟨d, cs⟩
    · have hc : c ≠ ':' := fun hc => h (congrArg some hc)
      rw [List.singleton_append, takeToColons_cons fun hc' => absurd hc' hc]
      rfl
    · rw [List.getLast?_cons_cons] at h
      rw [List.cons_append, takeToColons_cons, ih h]
      rintro rfl hd
      exact hcolons cs rfl (by rw [Option.some.inj hd])

/-! ### The loop -/

/-- A character that is put off goes from the rest to the pending path. -/
theorem reverse_cons_append (c : Char) (path cs : List Char) :
    (c :: path).reverse ++ cs = path.reverse ++ c :: cs := by
  rw [List.reverse_cons, List.append_assoc, List.singleton_append]

/-- The characters of a path are put off. -/
theorem shortenChars_append_path {name : List Char} (h : name.all isPathChar)
    (path cs : List Char) :
    shortenChars path (name ++ cs) = shortenChars (name.reverse ++ path) cs := by
  induction name generalizing path with
  | nil => rfl
  | cons c name ih =>
    rw [List.all_cons, Bool.and_eq_true] at h
    rw [List.cons_append, shortenChars, if_pos h.1, ih h.2, reverse_cons_append]

/-- Any other character ends the pending path, and nothing of it reaches what comes behind. -/
theorem shortenChars_append_separator {c : Char} (hc : isPathChar c = false)
    (path a b : List Char) :
    shortenChars path (a ++ c :: b) = shortenChars path a ++ c :: shortenChars [] b := by
  fun_induction shortenChars path a with
  | case1 path => rw [List.nil_append, shortenChars, if_neg (Bool.eq_false_iff.1 hc)]
  | case2 path d a hd ih => rw [List.cons_append, shortenChars, if_pos hd, ih]
  | case3 path d a hd ih =>
    rw [List.cons_append, shortenChars, if_neg hd, ih, List.append_assoc, List.cons_append]

theorem ne_colon_of_not_isPathChar {c : Char} (h : ¬ isPathChar c = true) : c ≠ ':' := by
  rintro rfl
  exact h rfl

theorem colonsApart_shortenChars (path cs : List Char) : ColonsApart (shortenChars path cs) := by
  fun_induction shortenChars path cs with
  | case1 path => exact colonsApart_reverse.2 (colonsApart_takeToColons path)
  | case2 path c cs hc ih => exact ih
  | case3 path c cs hc ih =>
    rw [colonsApart_append_cons (ne_colon_of_not_isPathChar hc)]
    exact ⟨colonsApart_reverse.2 (colonsApart_takeToColons path), ih⟩

theorem shortenChars_of_colonsApart {path cs : List Char} (h : ColonsApart (path.reverse ++ cs)) :
    shortenChars path cs = path.reverse ++ cs := by
  fun_induction shortenChars path cs with
  | case1 path =>
    rw [List.append_nil, colonsApart_reverse] at h
    rw [takeToColons_of_colonsApart h, List.append_nil]
  | case2 path c cs hc ih =>
    rw [← reverse_cons_append] at h ⊢
    exact ih h
  | case3 path c cs hc ih =>
    obtain ⟨hpath, hcs⟩ := (colonsApart_append_cons (ne_colon_of_not_isPathChar hc)).1 h
    rw [takeToColons_of_colonsApart (colonsApart_reverse.1 hpath), ih hcs, List.reverse_nil,
      List.nil_append]

theorem getLast?_ne_colon {path cs : List Char} (h : (path.reverse ++ cs).head? ≠ some ':') :
    path.getLast? ≠ some ':' := by
  intro hlast
  apply h
  rw [List.head?_append, List.head?_reverse, hlast, Option.some_or]

/-- Of a pending path, what stands in front of a double colon is lost. -/
theorem shortenChars_append_colons {path cs : List Char}
    (h : (path.reverse ++ cs).head? ≠ some ':') (front : List Char) :
    shortenChars (path ++ ':' :: ':' :: front) cs = shortenChars path cs := by
  have hlast := getLast?_ne_colon h
  fun_induction shortenChars path cs with
  | case1 path => rw [shortenChars, takeToColons_append_colons hlast]
  | case2 path c cs hc ih =>
    rw [← reverse_cons_append] at h
    rw [shortenChars, if_pos hc]
    exact ih h (getLast?_ne_colon h)
  | case3 path c cs hc ih => rw [shortenChars, if_neg hc, takeToColons_append_colons hlast]

/-! ### Names -/

theorem toList_shorten (s : String) : (shorten s).toList = shortenChars [] s.toList :=
  String.toList_ofList

theorem shorten_unqualified (s : String) : ¬ "::".toList <:+: (shorten s).toList := by
  rw [← colonsApart_iff, toList_shorten]
  exact colonsApart_shortenChars [] s.toList

theorem shorten_of_unqualified {s : String} (h : ¬ "::".toList <:+: s.toList) : shorten s = s := by
  apply String.toList_injective
  rw [toList_shorten]
  exact shortenChars_of_colonsApart (colonsApart_iff.2 h)

theorem shorten_append_separator {c : Char} (hc : isPathChar c = false) (a b : String) :
    shorten (a ++ String.singleton c ++ b) = shorten a ++ String.singleton c ++ shorten b := by
  apply String.toList_injective
  simp only [toList_shorten, String.toList_append, String.toList_singleton, List.append_assoc,
    List.singleton_append]
  exact shortenChars_append_separator hc [] a.toList b.toList

theorem shorten_append_colons {path s : String} (hpath : path.toList.all isPathChar)
    (hs : s.toList.head? ≠ some ':') : shorten (path ++ "::" ++ s) = shorten s := by
  apply String.toList_injective
  have hcolons : (path.toList ++ "::".toList).all isPathChar := by
    rw [List.all_append, hpath]
    rfl
  calc (shorten (path ++ "::" ++ s)).toList
      = shortenChars [] (path.toList ++ "::".toList ++ s.toList) := by
        rw [toList_shorten, String.toList_append, String.toList_append]
    _ = shortenChars ([] ++ ':' :: ':' :: path.toList.reverse) s.toList := by
        rw [shortenChars_append_path hcolons]
        simp
    _ = shortenChars [] s.toList := shortenChars_append_colons hs _
    _ = (shorten s).toList := (toList_shorten s).symm

/-- **Names are shortened piece by piece.** A short name holds no double colon, and to shorten it
again changes nothing. At a character that cannot stand in a path a name falls into two pieces,
which are shortened each on its own. A name without a double colon is kept, and a path with a double
colon behind it is dropped. -/
theorem shorten_componentwise :
    (∀ s, ¬ "::".toList <:+: (shorten s).toList) ∧
      (∀ s, shorten (shorten s) = shorten s) ∧
      (∀ (a b : String) (c : Char), Text.isAlphanumeric c = false → c ≠ '_' → c ≠ ':' →
        shorten (a ++ String.singleton c ++ b) = shorten a ++ String.singleton c ++ shorten b) ∧
      (∀ s, ¬ "::".toList <:+: s.toList → shorten s = s) ∧
      ∀ path s : String, path.toList.all isPathChar → s.toList.head? ≠ some ':' →
        shorten (path ++ "::" ++ s) = shorten s := by
  refine ⟨shorten_unqualified, ?_, ?_, fun s => shorten_of_unqualified, ?_⟩
  · intro s
    exact shorten_of_unqualified (shorten_unqualified s)
  · intro a b c hletter hunderscore hcolon
    have hc : isPathChar c = false := by simp [isPathChar, hletter, hunderscore, hcolon]
    exact shorten_append_separator hc a b
  · intro path s
    exact shorten_append_colons

/-- A list of references, with three colons in the path of one. -/
theorem shorten_componentwise_references :
    (Text.isAlphanumeric '<' = false ∧ '<' ≠ '_' ∧ '<' ≠ ':') ∧
      shorten ("alloc::vec::Vec" ++ String.singleton '<' ++ "&shop:::Product>") =
        shorten "alloc::vec::Vec" ++ String.singleton '<' ++ shorten "&shop:::Product>" ∧
      shorten ("alloc::vec" ++ "::" ++ "Vec") = shorten "Vec" ∧ shorten "Vec" = "Vec" ∧
      shorten "alloc::vec::Vec<&shop:::Product>" = "Vec<&Product>" := by
  obtain ⟨-, -, hseparator, hunqualified, hpath⟩ := shorten_componentwise
  refine ⟨by decide, ?_, ?_, ?_, by decide +kernel⟩
  · exact hseparator _ _ '<' (by decide) (by decide) (by decide)
  · exact hpath "alloc::vec" "Vec" (by decide) (by decide)
  · exact hunqualified "Vec" (by decide)

end EventFlow
