import EventFlow.Manifest.TypeNotation
import EventFlow.Pipeline.Typed

/-!
# How lists are written

Manifests read two notations for a list, `[T]` and `Vec<T>`, and write one of them, `[T]`; the short
name of a type of lists is written `Vec<T>`. Reading forgets which one was used
(`parse_brackets`, `parse_angles`), so a text may stand for a type under either notation
(`Denotes`). Writing what was read does not bring the name of a list back (`not_keepsName_list`).
-/

namespace EventFlow

/-- Nothing is cut off a text that begins and ends with characters that are not blank. -/
theorem Text.trimChars_eq_self (first last : Char) (cs : List Char)
    (hfirst : isBlank first = false) (hlast : isBlank last = false) :
    trimChars (first :: (cs ++ [last])) = first :: (cs ++ [last]) := by
  have hfront : (first :: (cs ++ [last])).dropWhile isBlank = first :: (cs ++ [last]) :=
    List.dropWhile_cons_of_neg (by simp [hfirst])
  have hback : (first :: (cs ++ [last])).reverse.dropWhile isBlank =
      (first :: (cs ++ [last])).reverse := by
    rw [← List.cons_append, List.reverse_append, List.reverse_singleton, List.singleton_append]
    exact List.dropWhile_cons_of_neg (by simp [hlast])
  rw [trimChars, hfront, hback, List.reverse_reverse]

namespace FlowType

/-- Between the marks of a list stands the type of its elements. -/
theorem parseChars_of_inside? {cs inner : List Char}
    (h : inside? (Text.trimChars cs) = some inner) : parseChars cs = list (parseChars inner) := by
  rw [parseChars]
  split
  · next inner' hinner =>
    obtain rfl : inner' = inner := Option.some.inj (hinner.symm.trans h)
    rfl
  · next hnone => simp [h] at hnone

@[simp] theorem parse_brackets (text : String) :
    parse ("[" ++ text ++ "]") = list (parse text) := by
  have htrim := Text.trimChars_eq_self '[' ']' text.toList (by decide) (by decide)
  have hinside : inside? ('[' :: (text.toList ++ [']'])) = some text.toList := by simp [inside?]
  rw [parse, String.toList_append, String.toList_append]
  exact parseChars_of_inside? (htrim ▸ hinside)

@[simp] theorem parse_angles (text : String) :
    parse ("Vec<" ++ text ++ ">") = list (parse text) := by
  have htrim := Text.trimChars_eq_self 'V' '>' ('e' :: 'c' :: '<' :: text.toList) (by decide)
    (by decide)
  have hinside : inside? ('V' :: 'e' :: 'c' :: '<' :: (text.toList ++ ['>'])) =
      some text.toList := by
    simp [inside?]
  rw [parse, String.toList_append, String.toList_append]
  exact parseChars_of_inside? (htrim ▸ hinside)

/-- **A text stands for a type** when it reads like its short name. -/
def Denotes (text : String) (a : DataType) : Prop :=
  parse text = parse a.name

instance (text : String) (a : DataType) : Decidable (Denotes text a) :=
  inferInstanceAs (Decidable (_ = _))

theorem parse_name_list (a : DataType) : parse (DataType.list a).name = list (parse a.name) :=
  parse_angles a.name

/-- A list may be written with brackets. -/
theorem Denotes.brackets {text : String} {a : DataType} (h : Denotes text a) :
    Denotes ("[" ++ text ++ "]") (.list a) := by
  rw [Denotes, parse_brackets, parse_name_list, h]

/-- A list may be written as its short name is. -/
theorem Denotes.angles {text : String} {a : DataType} (h : Denotes text a) :
    Denotes ("Vec<" ++ text ++ ">") (.list a) := by
  rw [Denotes, parse_angles, parse_name_list, h]

/-- **A type keeps its name** when its short name, read and written again, is the same. -/
def KeepsName (a : DataType) : Prop :=
  (parse a.name).text = a.name

instance (a : DataType) : Decidable (KeepsName a) :=
  inferInstanceAs (Decidable (_ = _))

/-- **No list keeps its name**: it is written with brackets. -/
theorem not_keepsName_list (a : DataType) : ¬KeepsName (.list a) := by
  rw [KeepsName, parse_name_list]
  intro h
  have hfirst : (list (parse a.name)).text.toList.head? = (DataType.list a).name.toList.head? := by
    rw [h]
  simp [text, DataType.name] at hfirst

end FlowType

end EventFlow
