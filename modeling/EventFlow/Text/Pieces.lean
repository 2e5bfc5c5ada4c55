/-!
# Cutting texts into pieces and joining them

`splitOnChar` cuts a text at every occurrence of a character, `joinWith` puts a separator between
neighbours; `lowerAscii` is the small-letter form in which fixed words are compared.
-/

namespace EventFlow.Text

/-- The small letters for the capital letters `A` to `Z`; every other character stays. -/
def lowerAscii (s : String) : String :=
  String.ofList (s.toList.map Char.toLower)

/-- The pieces of a list between the elements that satisfy `p`; there is one more piece than there
are such elements, so an empty list has one empty piece. -/
def splitChars (p : Char → Bool) : List Char → List (List Char)
  | [] => [[]]
  | c :: cs =>
    if p c then [] :: splitChars p cs
    else match splitChars p cs with
      | [] => [[c]]
      | piece :: rest => (c :: piece) :: rest

/-- The texts of a list with `separator` between neighbours. -/
def joinWith (separator : String) : List String → String
  | [] => ""
  | [s] => s
  | s :: t :: rest => s ++ separator ++ joinWith separator (t :: rest)

/-- The pieces of a text between the characters equal to `c`. -/
def splitOnChar (c : Char) (s : String) : List String :=
  (splitChars (· == c) s.toList).map String.ofList

end EventFlow.Text
