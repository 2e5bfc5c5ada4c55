import EventFlow.Toml.Parse

/-!
# Texts in TOML

A text stands between double quotes, where a backslash escapes, or between single quotes, where
nothing does; between three quotes of either kind it may run over lines, and a line break directly
behind the opening quotes does not count. Up to two quotes may stand inside, also directly in front
of the closing ones.
-/

namespace EventFlow.Toml

/-- The character that a letter behind a backslash stands for. -/
def escape? (c : Char) : Option Char :=
  match c with
  | 'b' => some '\x08'
  | 'f' => some '\x0c'
  | 'n' => some '\n'
  | 'r' => some '\r'
  | 't' => some '\t'
  | '"' => some '"'
  | '\\' => some '\\'
  | _ => none

/-- The value of a digit of base sixteen. -/
def hexValue? (c : Char) : Option Nat :=
  if c.isDigit then some (c.toNat - '0'.toNat)
  else if 'a' ≤ c && c ≤ 'f' then some (c.toNat - 'a'.toNat + 10)
  else if 'A' ≤ c && c ≤ 'F' then some (c.toNat - 'A'.toNat + 10)
  else none

/-- The character whose number has exactly so many digits in front of the rest. -/
def codePoint? (digits : Nat) (cs : List Char) : Option (Char × List Char) :=
  let front := cs.take digits
  if front.length < digits then none
  else
    match front.foldlM (fun n c => (hexValue? c).map (16 * n + ·)) 0 with
    | some n => if n.isValidChar then some (Char.ofNat n, cs.drop digits) else none
    | none => none

/-- The character of an escape, from behind its backslash. -/
def escaped? : List Char → Option (Char × List Char)
  | [] => none
  | 'u' :: cs => codePoint? 4 cs
  | 'U' :: cs => codePoint? 8 cs
  | c :: cs => (escape? c).map (·, cs)

/-- A line break at the front, as one character, and the rest. -/
def newline? : List Char → Option (List Char)
  | '\n' :: cs => some cs
  | '\r' :: '\n' :: cs => some cs
  | _ => none

/-- The rest behind an escaped end of line and the blanks and line breaks after it. -/
def dropEscapedBreak? (cs : List Char) : Option (List Char) :=
  (newline? (cs.dropWhile isBlank)).map dropBlank
where
  /-- The rest behind blanks and line breaks. -/
  dropBlank : List Char → List Char
    | '\r' :: '\n' :: cs => dropBlank cs
    | c :: cs => if isBlank c || c == '\n' then dropBlank cs else c :: cs
    | [] => []

/-- The rest of a text on one line, up to its closing quote. Each character takes at most one
step. -/
def shortText (quote : Char) (escapes : Bool) : Nat → List Char → Option (List Char × List Char)
  | 0, _ => none
  | _ + 1, [] => none
  | steps + 1, c :: cs =>
    if c == quote then some ([], cs)
    else if escapes && c == '\\' then do
      let (d, rest) ← escaped? cs
      let (text, rest) ← shortText quote escapes steps rest
      return (d :: text, rest)
    else if isTextChar c then do
      let (text, rest) ← shortText quote escapes steps cs
      return (c :: text, rest)
    else none

/-- The rest of a text over several lines, up to its closing quotes. Each character takes at most
one step. -/
def longText (quote : Char) (escapes : Bool) : Nat → List Char → Option (List Char × List Char)
  | 0, _ => none
  | _ + 1, [] => none
  | steps + 1, c :: cs =>
    if c == quote then
      let count := ((c :: cs).takeWhile (· == quote)).length
      if count < 3 then do
        let (text, rest) ← longText quote escapes steps cs
        return (c :: text, rest)
      else
        let inside := min (count - 3) 2
        some (List.replicate inside quote, (c :: cs).drop (inside + 3))
    else if escapes && c == '\\' then
      match dropEscapedBreak? cs with
      | some rest => longText quote escapes steps rest
      | none => do
        let (d, rest) ← escaped? cs
        let (text, rest) ← longText quote escapes steps rest
        return (d :: text, rest)
    else match newline? (c :: cs) with
      | some rest => do
        let (text, rest) ← longText quote escapes steps rest
        return ('\n' :: text, rest)
      | none =>
        if isTextChar c then do
          let (text, rest) ← longText quote escapes steps cs
          return (c :: text, rest)
        else none

/-- The text between quotes at the front; one over several lines only where it is allowed. -/
def quotedText? (long : Bool) (cs : List Char) : Option (List Char × List Char) :=
  match cs with
  | '"' :: '"' :: '"' :: rest => if long then body '"' true rest else some ([], '"' :: rest)
  | '\'' :: '\'' :: '\'' :: rest => if long then body '\'' false rest else some ([], '\'' :: rest)
  | '"' :: rest => shortText '"' true (rest.length + 1) rest
  | '\'' :: rest => shortText '\'' false (rest.length + 1) rest
  | _ => none
where
  /-- A text over several lines, from behind its opening quotes. -/
  body (quote : Char) (escapes : Bool) (rest : List Char) : Option (List Char × List Char) :=
    let rest := (newline? rest).getD rest
    longText quote escapes (rest.length + 1) rest

/-- A text between quotes. -/
def text (long : Bool) : Parse String := do
  match quotedText? long (← get) with
  | some (cs, rest) =>
    set rest
    return String.ofList cs
  | none => throw (.invalid "string")

end EventFlow.Toml
