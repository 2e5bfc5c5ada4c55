import EventFlow.Workspace.Path
import Mathlib.Data.List.Basic
import Mathlib.Data.List.Induction
import Mathlib.Data.Set.List
import Mathlib.Logic.Relation

/-!
# The parts of paths

Paths are texts, and everything that is decided about them is decided on their parts. This file says
what the parts are of a path that was put together: one path behind another (`parts_join`), and the
path with given parts (`parts_ofParts`).

Two points lead back over the name before them. A path is **reduced** by taking away such pairs, one
after the other and in any order, and single points (`Reduces`); what is left when only names are
left does not depend on the order (`Reduces.names_unique`). `Path.simplify` does it in one pass from
the left with a stack. It agrees with reduction as long as it never has to go back over more than it
has seen (`foldl_advance_of_stays`); beyond that it stops at the root.
-/

namespace EventFlow

/-! ### Pieces of texts -/

namespace Text

theorem splitChars_ne_nil (p : Char → Bool) (cs : List Char) : splitChars p cs ≠ [] := by
  induction cs with
  | nil => simp [splitChars]
  | cons c cs ih =>
    rw [splitChars]
    split
    · simp
    · split <;> simp

/-- A text is cut at a separator. -/
theorem splitChars_append {p : Char → Bool} {c : Char} (hc : p c) (cs rest : List Char) :
    splitChars p (cs ++ c :: rest) = splitChars p cs ++ splitChars p rest := by
  induction cs with
  | nil => simp [splitChars, hc]
  | cons d cs ih =>
    rw [List.cons_append, splitChars, splitChars, ih]
    split
    · rfl
    · obtain ⟨piece, pieces, hpieces⟩ := List.exists_cons_of_ne_nil (splitChars_ne_nil p cs)
      rw [hpieces]
      rfl

/-- A text without a separator is one piece. -/
theorem splitChars_eq_singleton {p : Char → Bool} {cs : List Char} (h : ∀ c ∈ cs, ¬p c) :
    splitChars p cs = [cs] := by
  induction cs with
  | nil => rfl
  | cons c cs ih =>
    rw [splitChars, if_neg (h c List.mem_cons_self), ih fun d hd => h d (List.mem_cons_of_mem _ hd)]

/-- No piece holds a separator. -/
theorem not_of_mem_splitChars {p : Char → Bool} {cs piece : List Char}
    (h : piece ∈ splitChars p cs) {c : Char} (hc : c ∈ piece) : ¬p c := by
  induction cs generalizing piece with
  | nil => simp_all [splitChars]
  | cons d cs ih =>
    rw [splitChars] at h
    split at h
    · rcases List.mem_cons.mp h with rfl | hlater
      · simp at hc
      · exact ih hlater hc
    · next hd =>
      split at h
      · next hnil => exact absurd hnil (splitChars_ne_nil p cs)
      · next first rest hpieces =>
        rcases List.mem_cons.mp h with rfl | hlater
        · rcases List.mem_cons.mp hc with rfl | hinner
          · exact hd
          · exact ih (hpieces ▸ List.mem_cons_self) hinner
        · exact ih (hpieces ▸ List.mem_cons_of_mem _ hlater) hc

end Text

namespace Workspace.Path

/-! ### Fronts and steps -/

/-- The front of a path: the root, or the point that it starts with. -/
def front (path : String) : List Part :=
  if isAbsolute path then [.root]
  else if (Text.splitOnChar '/' path).head? == some "." then [.here] else []

/-- The parts of a path behind its front. -/
def steps (path : String) : List Part :=
  (Text.splitOnChar '/' path).filterMap part?

theorem parts_eq (path : String) : parts path = front path ++ steps path := rfl

theorem front_of_isAbsolute {path : String} (h : isAbsolute path) : front path = [.root] :=
  if_pos h

/-- A path that does not start at the root has no more in front than a point. -/
theorem parts_of_relative {path : String} (h : isAbsolute path = false) :
    parts path = steps path ∨ parts path = .here :: steps path := by
  rw [parts_eq, front, h, if_neg Bool.false_ne_true]
  split
  · exact .inr rfl
  · exact .inl rfl

/-- **A name that can be a part of a path**: it is none of the texts with another meaning, and it
has no slash. -/
structure IsName (name : String) : Prop where
  part : part? name = some (.name name)
  plain : '/' ∉ name.toList

/-- Behind the front there are only names and steps back. -/
theorem up_or_name_of_mem_steps {path : String} {part : Part} (h : part ∈ steps path) :
    part = .up ∨ ∃ name, part = .name name ∧ IsName name := by
  obtain ⟨piece, hmem, hpiece⟩ := List.mem_filterMap.mp h
  obtain ⟨cs, hcs, rfl⟩ := List.mem_map.mp hmem
  rw [part?] at hpiece
  split at hpiece
  · cases hpiece
  · next hidle =>
    split at hpiece
    · exact .inl (Option.some.inj hpiece).symm
    · next hup =>
      refine .inr ⟨_, (Option.some.inj hpiece).symm, by rw [part?, if_neg hidle, if_neg hup], ?_⟩
      rw [String.toList_ofList]
      exact fun hslash => Text.not_of_mem_splitChars hcs hslash (by simp)

theorem root_notMem_steps (path : String) : .root ∉ steps path := by
  intro hmem
  rcases up_or_name_of_mem_steps hmem with hup | ⟨name, hname, -⟩
  · cases hup
  · cases hname

/-! ### A path behind another one -/

theorem splitOnChar_append (base path : String) :
    Text.splitOnChar '/' (base ++ "/" ++ path) =
      Text.splitOnChar '/' base ++ Text.splitOnChar '/' path := by
  have hchars : (base ++ "/" ++ path).toList = base.toList ++ '/' :: path.toList := by simp
  rw [Text.splitOnChar, hchars, Text.splitChars_append (by simp), List.map_append]
  rfl

theorem steps_append (base path : String) :
    steps (base ++ "/" ++ path) = steps base ++ steps path := by
  rw [steps, splitOnChar_append, List.filterMap_append]
  rfl

/-- A slash at the end adds no step. -/
theorem steps_append_slash (base : String) : steps (base ++ "/") = steps base := by
  have happend := steps_append base ""
  rw [String.append_empty] at happend
  rw [happend]
  exact List.append_nil _

theorem isAbsolute_append {base : String} (h : base ≠ "") (rest : String) :
    isAbsolute (base ++ rest) = isAbsolute base := by
  obtain ⟨c, cs, hcs⟩ := List.exists_cons_of_ne_nil (String.toList_eq_nil_iff.not.mpr h)
  rw [isAbsolute, isAbsolute, String.toList_append, hcs]
  rfl

theorem head?_splitOnChar_append (base path : String) :
    (Text.splitOnChar '/' (base ++ "/" ++ path)).head? = (Text.splitOnChar '/' base).head? := by
  rw [splitOnChar_append, List.head?_append_of_ne_nil]
  exact fun hnil => Text.splitChars_ne_nil _ _ (List.map_eq_nil_iff.mp hnil)

/-- What stands behind a slash does not change the front. -/
theorem front_append (base path : String) : front (base ++ "/" ++ path) = front (base ++ "/") := by
  have hslash := head?_splitOnChar_append base ""
  rw [String.append_empty] at hslash
  rw [front, front, isAbsolute_append (by simp), head?_splitOnChar_append, hslash]

theorem front_append_slash {base : String} (h : base ≠ "") : front (base ++ "/") = front base := by
  have hslash := head?_splitOnChar_append base ""
  rw [String.append_empty] at hslash
  rw [front, front, isAbsolute_append h, hslash]

/-- A path behind another one stands behind a slash, which the other one may end with. -/
theorem exists_join_eq {base path : String} (hbase : base ≠ "") (hpath : isAbsolute path = false) :
    ∃ stem, join base path = stem ++ "/" ++ path ∧ (base = stem ∨ base = stem ++ "/") := by
  rw [join, if_neg (by simp [hpath, hbase])]
  split
  · next hslash =>
    obtain ⟨cs, hcs⟩ := List.getLast?_eq_some_iff.mp (eq_of_beq hslash)
    have hstem : base = String.ofList cs ++ "/" := by
      rw [← String.toList_inj, hcs]
      simp
    exact ⟨String.ofList cs, by rw [hstem], .inr hstem⟩
  · exact ⟨base, rfl, .inl rfl⟩

/-- **The parts of a path behind another one.** -/
theorem parts_join {base path : String} (hbase : base ≠ "") (hpath : isAbsolute path = false) :
    parts (join base path) = parts base ++ steps path := by
  obtain ⟨stem, hjoin, rfl | rfl⟩ := exists_join_eq hbase hpath
  · rw [hjoin, parts_eq, parts_eq, front_append, front_append_slash hbase, steps_append,
      List.append_assoc]
  · rw [hjoin, parts_eq, parts_eq, front_append, steps_append, steps_append_slash,
      List.append_assoc]

theorem join_empty (path : String) : join "" path = path := by
  simp [join]

theorem isAbsolute_join {base path : String} (hpath : isAbsolute path = false) :
    isAbsolute (join base path) = isAbsolute base := by
  by_cases hbase : base = ""
  · rw [hbase, join_empty, hpath]
    rfl
  · obtain ⟨stem, hjoin, rfl | rfl⟩ := exists_join_eq hbase hpath
    · rw [hjoin, String.append_assoc, isAbsolute_append hbase]
    · rw [hjoin, isAbsolute_append hbase]

/-! ### The path with some parts -/

/-- The parts at which a path without points begins. -/
def lead (absolute : Bool) : List Part :=
  if absolute then [.root] else []

namespace IsName

theorem isAbsolute {name : String} (h : IsName name) : Path.isAbsolute name = false := by
  rw [Path.isAbsolute, beq_eq_false_iff_ne]
  exact fun hhead => h.plain (List.mem_of_head? hhead)

theorem pieces {name : String} (h : IsName name) : Text.splitOnChar '/' name = [name] := by
  rw [Text.splitOnChar, Text.splitChars_eq_singleton]
  · simp
  · intro c hc hslash
    exact h.plain (eq_of_beq hslash ▸ hc)

theorem steps {name : String} (h : IsName name) : Path.steps name = [.name name] := by
  rw [Path.steps, h.pieces, List.filterMap_cons, h.part]
  rfl

theorem parts {name : String} (h : IsName name) : Path.parts name = [.name name] := by
  have hpoint : name ≠ "." := by
    rintro rfl
    exact absurd h.part (by decide)
  rw [parts_eq, h.steps, front, h.isAbsolute, h.pieces]
  simp [hpoint]

end IsName

theorem ofParts_concat (ps : List Part) (part : Part) :
    ofParts (ps ++ [part]) = join (ofParts ps) (partText part) := by
  rw [ofParts, List.foldl_append]
  rfl

/-- **The parts of the path with some parts** are these, if they are names, perhaps behind the
root. -/
theorem parts_ofParts (absolute : Bool) {names : List String} (h : ∀ name ∈ names, IsName name) :
    parts (ofParts (lead absolute ++ names.map .name)) = lead absolute ++ names.map .name := by
  induction names using List.reverseRecOn with
  | nil => cases absolute <;> decide
  | append_singleton names name ih =>
    have hname : IsName name := h name (by simp)
    replace ih := ih fun other hother => h other (by simp [hother])
    rw [List.map_append, List.map_singleton, ← List.append_assoc, ofParts_concat, partText]
    by_cases hempty : ofParts (lead absolute ++ names.map .name) = ""
    · -- nothing stands before the name
      rw [hempty] at ih
      rw [hempty, join_empty, hname.parts, ← ih]
      rfl
    · rw [parts_join hempty hname.isAbsolute, hname.steps, ih]

/-! ### Simplification -/

/-- What a part makes of the parts before it. -/
def advance (done : List Part) : Part → List Part
  | .here => done
  | .up => if done.getLast? == some .root then done else done.dropLast
  | part => done ++ [part]

theorem simplify_eq (ps : List Part) : simplify ps = ps.foldl advance [] := rfl

/-- Two points take the name before them away. -/
theorem advance_up_concat (done : List Part) (name : String) :
    advance (done ++ [.name name]) .up = done := by
  simp [advance]

/-- Names stay as they are. -/
theorem foldl_advance_names (done : List Part) (names : List String) :
    (names.map Part.name).foldl advance done = done ++ names.map .name := by
  induction names generalizing done with
  | nil => simp
  | cons name names ih => simp [advance, ih]

/-- **What simplifying leaves**: names, behind the root exactly if it started there. -/
theorem exists_foldl_advance {absolute : Bool} {names : List String} {ps : List Part}
    (hnames : ∀ name ∈ names, IsName name)
    (hps : ∀ part ∈ ps, part = .here ∨ part = .up ∨ ∃ name, part = .name name ∧ IsName name) :
    ∃ names' : List String, ps.foldl advance (lead absolute ++ names.map .name) =
        lead absolute ++ names'.map .name ∧ ∀ name ∈ names', IsName name := by
  induction ps generalizing names with
  | nil => exact ⟨names, rfl, hnames⟩
  | cons part ps ih =>
    have hrest := fun p hp => hps p (List.mem_cons_of_mem _ hp)
    rw [List.foldl_cons]
    rcases hps part List.mem_cons_self with rfl | rfl | ⟨name, rfl, hname⟩
    · exact ih hnames hrest
    · -- a step back over a name, or none at the root
      rcases List.eq_nil_or_concat names with rfl | ⟨before, name, rfl⟩
      · have hstay : advance (lead absolute ++ ([] : List String).map .name) .up =
            lead absolute ++ ([] : List String).map .name := by
          cases absolute <;> rfl
        rw [hstay]
        exact ih hnames hrest
      · rw [List.concat_eq_append] at hnames ⊢
        rw [List.map_append, List.map_singleton, ← List.append_assoc, advance_up_concat]
        exact ih (fun n hn => hnames n (List.mem_append_left _ hn)) hrest
    · have hadd : advance (lead absolute ++ names.map .name) (.name name) =
          lead absolute ++ (names ++ [name]).map .name := by
        simp [advance]
      rw [hadd]
      refine ih (fun n hn => ?_) hrest
      rcases List.mem_append.mp hn with hold | hnew
      · exact hnames n hold
      · rw [List.mem_singleton.mp hnew]
        exact hname

theorem foldl_advance_front (path : String) :
    (front path).foldl advance [] = lead (isAbsolute path) := by
  rw [front, lead]
  split
  · rfl
  · split <;> rfl

/-- **The parts of a path are simplified to names**, behind the root exactly if it starts there. -/
theorem exists_simplify_parts (path : String) :
    ∃ names : List String, simplify (parts path) = lead (isAbsolute path) ++ names.map .name ∧
      ∀ name ∈ names, IsName name := by
  have hsteps := @exists_foldl_advance (isAbsolute path) [] (steps path) (by simp)
    fun part hpart => .inr (up_or_name_of_mem_steps hpart)
  rw [simplify_eq, parts_eq, List.foldl_append, foldl_advance_front]
  simpa using hsteps

/-- A path from the root without steps back is simplified already, also in front of others. -/
theorem simplify_parts_append {path : String} (habsolute : isAbsolute path)
    (hup : .up ∉ parts path) (ps : List Part) :
    simplify (parts path ++ ps) = ps.foldl advance (parts path) := by
  obtain ⟨names, hnames⟩ : steps path ∈ Set.range (List.map Part.name) := by
    rw [Set.range_list_map]
    intro part hpart
    rcases up_or_name_of_mem_steps hpart with rfl | ⟨name, rfl, -⟩
    · exact absurd (List.mem_append_right _ hpart) hup
    · exact ⟨name, rfl⟩
  have hsimple : (parts path).foldl advance [] = parts path := by
    rw [parts_eq, front_of_isAbsolute habsolute, ← hnames]
    exact foldl_advance_names [.root] names
  rw [simplify_eq, List.foldl_append, hsimple]

/-! ### Reduction -/

/-- Whether a part is a name. -/
def isName : Part → Bool
  | .name _ => true
  | _ => false

/-- One step of reduction: a point is taken away, or a name with the two points behind it. -/
inductive Cancels : List Part → List Part → Prop
  | point (before after : List Part) : Cancels (before ++ .here :: after) (before ++ after)
  | pair (before : List Part) (name : String) (after : List Part) :
      Cancels (before ++ .name name :: .up :: after) (before ++ after)

/-- **Reduction of the parts of a path**, in any order. -/
def Reduces : List Part → List Part → Prop :=
  Relation.ReflTransGen Cancels

theorem Cancels.foldl_advance {ps qs : List Part} (h : Cancels ps qs) (done : List Part) :
    ps.foldl advance done = qs.foldl advance done := by
  cases h with
  | point before after => simp [advance]
  | pair before name after =>
    rw [List.foldl_append, List.foldl_append, List.foldl_cons, List.foldl_cons]
    exact congrArg (after.foldl advance) (advance_up_concat _ name)

/-- Simplifying does not see a reduction. -/
theorem Reduces.foldl_advance {ps qs : List Part} (h : Reduces ps qs) (done : List Part) :
    ps.foldl advance done = qs.foldl advance done := by
  induction h with
  | refl => rfl
  | tail _ hstep ih => rw [ih, hstep.foldl_advance]

/-- **Whatever the order of reduction, the same names are left.** -/
theorem Reduces.names_unique {ps : List Part} {names names' : List String}
    (h : Reduces ps (names.map .name)) (h' : Reduces ps (names'.map .name)) : names = names' := by
  have hfold := (h.foldl_advance []).symm.trans (h'.foldl_advance [])
  rw [foldl_advance_names, foldl_advance_names, List.nil_append, List.nil_append] at hfold
  exact List.map_injective_iff.mpr (fun _ _ heq => Part.name.inj heq) hfold

/-- **Parts that stay below where they start**, with some names before them: no beginning of them
has more steps back than names, those before them included. -/
def Stays (depth : Nat) (ps : List Part) : Prop :=
  ∀ before, before <+: ps → before.count .up ≤ depth + before.countP isName

/-- A name allows one step back more, and a step back uses one up. -/
theorem Stays.tail {depth depth' : Nat} {part : Part} {ps : List Part}
    (h : Stays depth (part :: ps))
    (hdepth : depth + (if isName part then 1 else 0) ≤ depth' + (if part == .up then 1 else 0)) :
    Stays depth' ps := by
  intro before hbefore
  have hlonger := h (part :: before) (List.cons_prefix_cons.mpr ⟨rfl, hbefore⟩)
  rw [List.count_cons, List.countP_cons] at hlonger
  omega

/-- A point in front makes no difference. -/
theorem Stays.steps {depth : Nat} {path : String} (h : Stays depth (parts path))
    (hpath : isAbsolute path = false) : Stays depth (steps path) := by
  rcases parts_of_relative hpath with heq | heq
  · rwa [heq] at h
  · rw [heq] at h
    exact h.tail (by simp [isName])

theorem Reduces.of_steps {path : String} {qs : List Part} (hpath : isAbsolute path = false)
    (h : Reduces (steps path) qs) : Reduces (parts path) qs := by
  rcases parts_of_relative hpath with heq | heq
  · rwa [heq]
  · rw [heq]
    exact .head (.point [] _) h

/-- **Where the steps back stay within the names, simplifying reduces**, and leaves what was there
before as it is. -/
theorem foldl_advance_of_stays (lower : List Part) {upper : List String} {ps : List Part}
    (hroot : .root ∉ ps) (h : Stays upper.length ps) :
    ∃ names : List String, ps.foldl advance (lower ++ upper.map .name) = lower ++ names.map .name ∧
      Reduces (upper.map .name ++ ps) (names.map .name) := by
  induction ps generalizing upper with
  | nil => exact ⟨upper, rfl, by rw [List.append_nil]; exact .refl⟩
  | cons part ps ih =>
    have hrest : .root ∉ ps := fun hmem => hroot (List.mem_cons_of_mem _ hmem)
    rw [List.foldl_cons]
    cases part with
    | root => exact absurd List.mem_cons_self hroot
    | here =>
      obtain ⟨names, hfold, hreduces⟩ := @ih upper hrest (h.tail (by simp [isName]))
      exact ⟨names, hfold, .head (.point _ _) hreduces⟩
    | up =>
      rcases List.eq_nil_or_concat upper with rfl | ⟨before, name, rfl⟩
      · have hfirst := h [.up] (by simp)
        simp [isName] at hfirst
      · rw [List.concat_eq_append] at h ⊢
        obtain ⟨names, hfold, hreduces⟩ := @ih before hrest (h.tail (by simp [isName]))
        refine ⟨names, ?_, .head ?_ hreduces⟩
        · rw [List.map_append, List.map_singleton, ← List.append_assoc, advance_up_concat, hfold]
        · simpa using Cancels.pair (before.map .name) name ps
    | name name =>
      obtain ⟨names, hfold, hreduces⟩ := @ih (upper ++ [name]) hrest (h.tail (by simp [isName]))
      exact ⟨names, by simpa [advance] using hfold, by simpa using hreduces⟩

end Workspace.Path

end EventFlow
