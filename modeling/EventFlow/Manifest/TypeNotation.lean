import EventFlow.Text.Blank

/-!
# Type notation

Manifests name the types that flow between steps. A text between brackets, or between `Vec<` and
`>`, is a list of what stands inside; any other text, without the blanks around it, is a name. Types
are written with brackets.
-/

namespace EventFlow

/-- A type as manifests know it. -/
inductive FlowType where
  | named (name : String)
  | list (element : FlowType)
  deriving DecidableEq, Repr, Inhabited

namespace FlowType

/-- What stands inside the marks of a list. -/
def inside? : List Char → Option (List Char)
  | '[' :: cs => if cs.getLast? = some ']' then some cs.dropLast else none
  | 'V' :: 'e' :: 'c' :: '<' :: cs => if cs.getLast? = some '>' then some cs.dropLast else none
  | _ => none

theorem length_inside?_lt {cs inner : List Char} (h : inside? cs = some inner) :
    inner.length < cs.length := by
  unfold inside? at h
  split at h
  · split at h
    · simp only [Option.some.injEq] at h
      subst h
      simp only [List.length_dropLast, List.length_cons]
      omega
    · simp at h
  · split at h
    · simp only [Option.some.injEq] at h
      subst h
      simp only [List.length_dropLast, List.length_cons]
      omega
    · simp at h
  · simp at h

theorem length_trimChars_le (cs : List Char) : (Text.trimChars cs).length ≤ cs.length := by
  unfold Text.trimChars
  rw [List.length_reverse]
  refine Nat.le_trans (List.dropWhile_sublist _).length_le ?_
  rw [List.length_reverse]
  exact (List.dropWhile_sublist _).length_le

/-- The type that some characters denote. -/
def parseChars (cs : List Char) : FlowType :=
  match _h : inside? (Text.trimChars cs) with
  | some inner => list (parseChars inner)
  | none => named (String.ofList (Text.trimChars cs))
termination_by cs.length
decreasing_by
  exact Nat.lt_of_lt_of_le (length_inside?_lt _h) (length_trimChars_le cs)

/-- The type that a text denotes. -/
def parse (text : String) : FlowType :=
  parseChars text.toList

/-- The notation of a type. -/
def text : FlowType → String
  | named name => name
  | list element => "[" ++ element.text ++ "]"

/-- The type of the elements of a list. -/
def element? : FlowType → Option FlowType
  | list element => some element
  | named _ => none

end FlowType

end EventFlow
