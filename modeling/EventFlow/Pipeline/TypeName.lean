import EventFlow.Text.Property

/-!
# Short names of types

The full name of a type carries the path of the module that defines it, and so do the names of the
types inside it. `shorten` cuts each path down to its last part and keeps everything between the
paths: brackets, commas, blanks and references stay in place.
-/

namespace EventFlow

/-- The characters of paths. -/
def isPathChar (c : Char) : Bool :=
  Text.isAlphanumeric c || c == '_' || c == ':'

/-- The characters of a path in reverse up to the first double colon. -/
def takeToColons : List Char → List Char
  | [] => []
  | ':' :: ':' :: _ => []
  | c :: cs => c :: takeToColons cs

/-- Shortens the rest of a name, given the path in front of it in reverse. -/
def shortenChars (path : List Char) : List Char → List Char
  | [] => (takeToColons path).reverse
  | c :: cs =>
    if isPathChar c then shortenChars (c :: path) cs
    else (takeToColons path).reverse ++ c :: shortenChars [] cs

/-- The name of a type with each path cut down to its last part. -/
def shorten (name : String) : String :=
  String.ofList (shortenChars [] name.toList)

end EventFlow
