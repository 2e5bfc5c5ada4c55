import EventFlow.Toml.Number
import EventFlow.Toml.Table

/-!
# Reading TOML

A text is a list of lines: blank ones, comments, headers that open a table, and keys with their
values. A value is a text, a truth value, a number, a date, a list, or a table between braces; at
most 79 lists and tables are nested in a value, and a key has at most 79 parts.
-/

namespace EventFlow.Toml

/-- How deep values nest, and how many parts a key has. -/
def maxDepth : Nat := 79

/-! ### Keys -/

/-- One part of a key, with the blanks around it. -/
def keyPart : Parse String := do
  skipBlanks
  let part ← match ← Parse.peek with
    | some '"' => text false
    | some '\'' => text false
    | _ =>
      let name ← Parse.takeWhile isBareKeyChar
      if name.isEmpty then throw (.invalid "key")
      pure (String.ofList name)
  skipBlanks
  return part

/-- The parts of a key, at least one and at most so many. -/
def keyParts : Nat → Parse (List String)
  | 0 => throw .tooDeep
  | parts + 1 => do
    let part ← keyPart
    if ← Parse.accept "." then return part :: (← keyParts parts)
    else return [part]

/-- A key: the parts in front and the last one. -/
def key : Parse (List String × String) := do
  let parts ← keyParts maxDepth
  return (parts.dropLast, parts.getLast?.getD "")

/-! ### Values -/

/-- Goes past blanks, comments and line breaks. Each round takes at least one line. -/
def skipLines : Nat → Parse Unit
  | 0 => return ()
  | steps + 1 => do
    skipBlanks
    let before ← get
    skipComment
    if ← acceptNewline then skipLines steps else set before

/-- The items of a list up to its end. Each round takes at least one character. -/
def listItems (value : Parse Document) : Nat → Parse (List Document)
  | 0 => throw (.invalid "array")
  | steps + 1 => do
    skipLines (← get).length
    if ← Parse.accept "]" then return []
    let item ← value
    skipLines (← get).length
    if ← Parse.accept "," then return item :: (← listItems value steps)
    Parse.expect "]" "array"
    return [item]

/-- The value of a key. -/
def keyValue (value : Parse Document) : Parse Document := do
  Parse.expect "=" "key"
  skipBlanks
  if (← get).isEmpty then throw .missingValue
  value

/-- The fields of a table between braces up to its end. Each round takes at least one character. -/
def inlineFields (value : Parse Document) : Nat → Fields → Parse Fields
  | 0, _ => throw (.invalid "inline table")
  | steps + 1, fields => do
    let (path, last) ← key
    let item ← keyValue value
    skipBlanks
    let fields ← StateT.lift (fields.insert last item path)
    if ← Parse.accept "," then inlineFields value steps fields
    else
      Parse.expect "\x7d" "inline table"
      return fields

/-- A word that stands for a value. -/
def word (s : String) (d : Document) : Parse Document := do
  Parse.expect s "string"
  return d

/-- A value that holds no others. -/
def plainValue : Parse Document := do
  match ← Parse.peek with
  | some '"' => return .text (← text true)
  | some '\'' => return .text (← text true)
  | some 't' => word "true" (.bool true)
  | some 'f' => word "false" (.bool false)
  | some '[' => throw .tooDeep
  | some '\x7b' => throw .tooDeep
  | _ => number

/-- A value in which so many lists and tables may be nested. -/
def value : Nat → Parse Document
  | 0 => plainValue
  | depth + 1 => do
    if ← Parse.accept "[" then
      return .list (← listItems (value depth) ((← get).length + 1))
    else if ← Parse.accept "\x7b" then
      skipBlanks
      if ← Parse.accept "\x7d" then return .table []
      let fields ← inlineFields (value depth) ((← get).length + 1) []
      return .table (documentOfFields fields)
    else plainValue

/-! ### Lines -/

/-- What has been read: the fields so far, and the names that lead to the open table. -/
structure Progress where
  root : Fields := []
  path : List String := []

/-- A comment on a line of its own. -/
def commentLine : Parse Unit := do
  skipComment
  if !(← acceptLineEnd) then throw .brokenComment

/-- A header. -/
def header (p : Progress) : Parse Progress := do
  Parse.skip 1
  let isList ← Parse.accept "["
  let (path, last) ← key
  Parse.expect (if isList then "]]" else "]") "table header"
  finishLine
  let root ← StateT.lift
    ((if isList then Fields.addTable else Fields.openTable) last path p.root)
  return { root, path := path ++ [last] }

/-- A key with its value. -/
def keyLine (p : Progress) : Parse Progress := do
  let (path, last) ← key
  let item ← keyValue (value maxDepth)
  finishLine
  let root ← StateT.lift (Fields.within (Fields.insert last item path) p.path p.root)
  return { p with root }

/-- The lines of a text. Each round takes at least one character. -/
def lines : Nat → Progress → Parse Fields
  | 0, p => return p.root
  | steps + 1, p => do
    skipBlanks
    match ← Parse.peek with
    | none => return p.root
    | some '#' =>
      commentLine
      lines steps p
    | some '[' => lines steps (← header p)
    | some c =>
      if c == '\n' || c == '\r' then
        if ← acceptNewline then lines steps p else throw .strayReturn
      else lines steps (← keyLine p)

/-- The document of a text; a byte order mark in front does not count. -/
def read (s : String) : Except Error Document := do
  let cs := s.toList
  let cs := if cs.head? == some '\ufeff' then cs.tail else cs
  let fields ← (lines (cs.length + 1) {}).run' cs
  return .table (documentOfFields fields)

end EventFlow.Toml
