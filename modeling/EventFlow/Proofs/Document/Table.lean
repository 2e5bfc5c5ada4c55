import EventFlow.Document.Record
import Mathlib.Data.List.Forall2
import Mathlib.Data.List.Nodup

/-!
# Tables

Tables are built by inserting fields one after the other, each in its place. Where no key comes
twice nothing is replaced, so the table that comes out is **the list that went in, in another
order** (`perm_insertFields`): it has the same keys, it is as long, and a key is looked up in it as
in the list (`field?_ofFields`).

What stands in a document under a key at any depth is collected by `under`, which goes through
tables in whatever order they are and so sees the same in the list (`perm_under_ofFields`).
-/

namespace EventFlow.Document

/-! ### Looking up -/

section Lookup

variable {α : Type} {key key' : String} {value : α} {fields fields' : List (String × α)}

@[simp] theorem lookupField_nil : lookupField key ([] : List (String × α)) = none := rfl

theorem lookupField_cons :
    lookupField key ((key', value) :: fields) =
      if key' = key then some value else lookupField key fields := by
  by_cases h : key' = key <;> simp [lookupField, h]

theorem lookupField_append :
    lookupField key (fields ++ fields') =
      (lookupField key fields).or (lookupField key fields') := by
  induction fields with
  | nil => rfl
  | cons field fields ih =>
    obtain ⟨k, v⟩ := field
    rw [List.cons_append, lookupField_cons, lookupField_cons, ih]
    by_cases h : k = key <;> simp [h]

/-- **Where no key comes twice, a field is found under its key.** -/
theorem lookupField_eq_some_iff (hnodup : (fields.map Prod.fst).Nodup) :
    lookupField key fields = some value ↔ (key, value) ∈ fields := by
  induction fields with
  | nil => simp
  | cons field fields ih =>
    obtain ⟨k, v⟩ := field
    obtain ⟨hfirst, hrest⟩ := List.nodup_cons.mp hnodup
    rw [lookupField_cons, List.mem_cons]
    by_cases h : k = key
    · subst h
      have hlater : (k, value) ∉ fields := fun hmem => hfirst (List.mem_map.mpr ⟨_, hmem, rfl⟩)
      rw [if_pos rfl, or_iff_left hlater]
      simp [eq_comm]
    · rw [if_neg h, ih hrest, or_iff_right fun heq => h (congrArg Prod.fst heq).symm]

theorem lookupField_perm (hnodup : (fields.map Prod.fst).Nodup) (h : fields'.Perm fields) :
    lookupField key fields' = lookupField key fields := by
  have hnodup' : (fields'.map Prod.fst).Nodup := (h.map Prod.fst).nodup_iff.mpr hnodup
  refine Option.ext fun value => ?_
  rw [lookupField_eq_some_iff hnodup, lookupField_eq_some_iff hnodup', h.mem_iff]

/-- Lists with the same keys in the same order have related values under a key. -/
theorem exists_lookupField_of_forall₂ {β : Type} {R : β → α → Prop} {others : List (String × β)}
    (h : List.Forall₂ (fun other field => other.1 = field.1 ∧ R other.2 field.2) others fields)
    (hvalue : lookupField key fields = some value) :
    ∃ x, lookupField key others = some x ∧ R x value := by
  induction h with
  | nil => simp at hvalue
  | @cons other field others fields hrel _ ih =>
    obtain ⟨k, x⟩ := other
    obtain ⟨k', y⟩ := field
    obtain ⟨rfl, hxy⟩ := hrel
    rw [lookupField_cons] at hvalue
    by_cases hkey : k = key
    · rw [if_pos hkey] at hvalue
      cases hvalue
      exact ⟨x, by rw [lookupField_cons, if_pos hkey], hxy⟩
    · rw [if_neg hkey] at hvalue
      obtain ⟨x', hx', hrel'⟩ := ih hvalue
      exact ⟨x', by rw [lookupField_cons, if_neg hkey, hx'], hrel'⟩

end Lookup

/-! ### Inserting -/

section Insert

variable {α : Type} {key : String} {value : α} {fields table : List (String × α)}

theorem perm_insertField (h : key ∉ table.map Prod.fst) :
    (insertField key value table).Perm ((key, value) :: table) := by
  induction table with
  | nil => exact .refl _
  | cons field table ih =>
    obtain ⟨k, v⟩ := field
    rw [List.map_cons, List.mem_cons, not_or] at h
    rw [insertField, if_neg h.1]
    by_cases hlt : key < k
    · rw [if_pos hlt]
    · rw [if_neg hlt]
      exact ((ih h.2).cons _).trans (.swap ..)

/-- Inserts fields one after the other. -/
def insertFields (fields table : List (String × α)) : List (String × α) :=
  fields.foldl (fun t field => insertField field.1 field.2 t) table

theorem insertFields_cons (field : String × α) :
    insertFields (field :: fields) table =
      insertFields fields (insertField field.1 field.2 table) := rfl

theorem insertFields_append (fields' : List (String × α)) :
    insertFields (fields ++ fields') table = insertFields fields' (insertFields fields table) :=
  List.foldl_append

/-- **Fields with different keys are all in the table, and none is replaced.** -/
theorem perm_insertFields (h : ((fields ++ table).map Prod.fst).Nodup) :
    (insertFields fields table).Perm (fields ++ table) := by
  induction fields generalizing table with
  | nil => exact .refl _
  | cons field fields ih =>
    have hfirst : field.1 ∉ table.map Prod.fst := by
      have hnew := h
      rw [List.cons_append, List.map_cons, List.nodup_cons, List.map_append] at hnew
      exact fun hmem => hnew.1 (List.mem_append_right _ hmem)
    have hinsert : (insertField field.1 field.2 table).Perm (field :: table) :=
      perm_insertField hfirst
    -- the first field has moved into the table, where it still differs from all others
    have hmoved : (fields ++ insertField field.1 field.2 table).Perm (field :: fields ++ table) :=
      (hinsert.append_left fields).trans List.perm_middle
    rw [insertFields_cons]
    exact (ih ((hmoved.map Prod.fst).nodup_iff.mpr h)).trans hmoved

theorem perm_insertFields_nil (h : (fields.map Prod.fst).Nodup) :
    (insertFields fields []).Perm fields := by
  simpa using @perm_insertFields α fields [] (by simpa using h)

/-- Lists with the same keys, none of them twice, hold the same fields in the same order. -/
theorem eq_of_perm_of_keys {fields' : List (String × α)} (hperm : fields.Perm fields')
    (hkeys : fields.map Prod.fst = fields'.map Prod.fst) (hnodup : (fields.map Prod.fst).Nodup) :
    fields = fields' := by
  induction fields generalizing fields' with
  | nil => exact hperm.nil_eq
  | cons field fields ih =>
    obtain ⟨field', rest, rfl⟩ := List.exists_cons_of_length_pos
      (hperm.length_eq ▸ Nat.succ_pos _ : 0 < fields'.length)
    obtain ⟨hkey, hrest⟩ := List.cons.inj hkeys
    have hnew := (List.nodup_cons.mp hnodup).1
    -- the first field is among the others, and behind the first one its key does not come again
    obtain rfl : field = field' := by
      rcases List.mem_cons.mp (hperm.mem_iff.mp List.mem_cons_self) with heq | hlater
      · exact heq
      · exact absurd (hrest ▸ List.mem_map_of_mem hlater) hnew
    rw [ih hperm.cons_inv hrest (List.nodup_cons.mp hnodup).2]

end Insert

/-! ### Fields of documents -/

/-- The fields of a table. -/
def fields : Document → List (String × Document)
  | .table fields => fields
  | _ => []

/-- The items of a list; nothing else has any. -/
def items : Document → List Document
  | .list items => items
  | _ => []

/-- The text under a key of a table. -/
def text? (key : String) (d : Document) : Option String :=
  (d.field? key).bind asText

theorem ofTexts_inj {texts texts' : List String} :
    ofTexts texts = ofTexts texts' ↔ texts = texts' := by
  rw [ofTexts, ofTexts, Document.list.injEq,
    (List.map_injective_iff.mpr fun _ _ => Document.text.inj).eq_iff]

theorem ofFields_eq (fields : List (String × Document)) :
    ofFields fields = .table (insertFields fields []) := rfl

/-- **A key is looked up in a table as in the list it is made from.** -/
theorem field?_ofFields {fields : List (String × Document)} {key : String}
    (h : (fields.map Prod.fst).Nodup) : (ofFields fields).field? key = lookupField key fields :=
  lookupField_perm h (perm_insertFields_nil h)

/-- A table tells the values of its fields. -/
theorem ofFields_inj {fields fields' : List (String × Document)}
    (hkeys : fields.map Prod.fst = fields'.map Prod.fst) (hnodup : (fields.map Prod.fst).Nodup) :
    ofFields fields = ofFields fields' ↔ fields = fields' := by
  refine ⟨fun h => ?_, congrArg ofFields⟩
  have htable : insertFields fields [] = insertFields fields' [] := Document.table.inj h
  have hperm := (perm_insertFields_nil (hkeys ▸ hnodup)).symm
  rw [← htable] at hperm
  exact eq_of_perm_of_keys (hperm.trans (perm_insertFields_nil hnodup)).symm hkeys hnodup

/-! ### What stands under a key -/

mutual

/-- **What stands in a document under a key**, at any depth. -/
def under (key : String) : Document → List Document
  | .list items => underItems key items
  | .table fields => underFields key fields
  | _ => []

/-- What stands in some documents under a key. -/
def underItems (key : String) : List Document → List Document
  | [] => []
  | item :: items => under key item ++ underItems key items

/-- What stands in some fields under a key. -/
def underFields (key : String) : List (String × Document) → List Document
  | [] => []
  | (k, value) :: fields =>
    (if k = key then [value] else []) ++ under key value ++ underFields key fields

end

/-- What stands in a field under a key. -/
def underField (key : String) (field : String × Document) : List Document :=
  (if field.1 = key then [field.2] else []) ++ under key field.2

theorem underFields_eq_flatMap (key : String) (fields : List (String × Document)) :
    underFields key fields = fields.flatMap (underField key) := by
  induction fields with
  | nil => rfl
  | cons field fields ih => rw [underFields, ih, List.flatMap_cons, underField]

/-- **What stands in a table is what stands in the list it is made from.** -/
theorem perm_under_ofFields (key : String) {fields : List (String × Document)}
    (h : (fields.map Prod.fst).Nodup) :
    (under key (ofFields fields)).Perm (fields.flatMap (underField key)) := by
  rw [ofFields_eq, under, underFields_eq_flatMap]
  exact (perm_insertFields_nil h).flatMap_right _

theorem under_ofFields_eq_nil {key : String} {fields : List (String × Document)}
    (hnodup : (fields.map Prod.fst).Nodup) (h : fields.flatMap (underField key) = []) :
    under key (ofFields fields) = [] :=
  List.perm_nil.mp ((perm_under_ofFields key hnodup).trans (.of_eq h))

end EventFlow.Document
