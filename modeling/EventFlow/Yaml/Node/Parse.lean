import EventFlow.Yaml.Node
import EventFlow.Yaml.Token

/-!
# Nodes from tokens

A document is a node between its directives, its start and its end. Nodes that are left out are
empty scalars wherever the grammar allows it. An anchor gets the number of names known so far, so a
name that is used again changes its number, and the next new name takes the same one.
-/

namespace EventFlow.Yaml

/-- What the directives of a document say. -/
structure Directives where
  versioned : Bool := false
  handles : List (String × String) := []

/-- The state of a parse: the tokens ahead and the numbers of the anchors. -/
structure Parse where
  tokens : List Token
  anchors : List (String × Nat) := []
  handles : List (String × String)

namespace Parse

/-- A step of a parse, which may fail. -/
abbrev Step := StateT Parse Option

/-- The token ahead. -/
def peek : Step (Option Token) := do
  return (← get).tokens.head?

/-- Goes past a token. -/
def skip : Step Unit :=
  modify fun s => { s with tokens := s.tokens.tail }

/-- Whether one of some tokens is ahead. -/
def atOneOf (ts : List Token) : Step Bool := do
  match ← peek with
  | none => return false
  | some t => return ts.contains t

/-- Registers an anchor and gives its number. -/
def addAnchor (name : String) : Step Nat := do
  let s ← get
  let number := s.anchors.length
  if s.anchors.any (·.1 == name) then
    let renumber (a : String × Nat) := if a.1 == name then (name, number) else a
    set { s with anchors := s.anchors.map renumber }
  else set { s with anchors := s.anchors ++ [(name, number)] }
  return number

/-- The whole tag of a handle and a suffix. -/
def expandTag (handle suffix : String) : Step String := do
  if handle == "" then return suffix
  match (← get).handles.find? (·.1 == handle) with
  | some (_, replacement) => return replacement ++ suffix
  | none => failure

/-- The anchor ahead, if any. -/
def anchor? : Step (Option Nat) := do
  match ← peek with
  | some (.anchor name) => skip; return some (← addAnchor name)
  | _ => return none

/-- The tag ahead, if any. -/
def tag? : Step (Option String) := do
  match ← peek with
  | some (.tag handle suffix) => skip; return some (← expandTag handle suffix)
  | _ => return none

/-- The properties ahead, in either order. -/
def properties : Step Properties := do
  match ← anchor? with
  | some anchor => return ⟨some anchor, ← tag?⟩
  | none =>
    let tag ← tag?
    return ⟨← anchor?, tag⟩

/-- An empty scalar, which needs properties to stand for a node. -/
def blankWith (p : Properties) : Step Node :=
  if p.anchor.isSome || p.tag.isSome then pure (Node.scalar p "" true) else failure

/-! ### Collections

The first argument bounds how many nodes and entries are entered in a chain; every entry takes a
token. -/

mutual

/-- A node. Block collections stand only in block context, and a sequence without an indentation of
its own only as a key or a value there. -/
def node (block indentless : Bool) : Nat → Step Node
  | 0 => failure
  | fuel + 1 => do
    match ← peek with
    | some (.aliasOf name) =>
      skip
      match (← get).anchors.find? (·.1 == name) with
      | some (_, number) => return .aliasOf number
      | none => failure
    | _ =>
      let p ← properties
      match ← peek with
      | some (.scalar text plain) =>
        skip
        let tag := if p.tag == some "!" then none else p.tag
        return .scalar { p with tag } text plain
      | some .flowSequenceStart => skip; return .sequence p (← flowItems true fuel)
      | some .flowMappingStart => skip; return .mapping p (← flowFields true fuel)
      | some .blockEntry =>
        if indentless then return .sequence p (← indentlessItems fuel) else blankWith p
      | some .blockSequenceStart =>
        if block then
          skip
          return .sequence p (← blockItems fuel)
        else blankWith p
      | some .blockMappingStart =>
        if block then
          skip
          return .mapping p (← blockFields fuel)
        else blankWith p
      | _ => blankWith p

/-- A node, or a blank in front of one of some tokens. -/
def nodeUnless (ts : List Token) (block indentless : Bool) : Nat → Step Node
  | 0 => failure
  | fuel + 1 => do
    if ← atOneOf ts then return .blank else node block indentless fuel

/-- A value behind its mark, or a blank. -/
def valueUnless (ts : List Token) (block indentless : Bool) : Nat → Step Node
  | 0 => failure
  | fuel + 1 => do
    if ← atOneOf [.value] then
      skip
      nodeUnless ts block indentless fuel
    else return .blank

/-- The items of a block sequence. -/
def blockItems : Nat → Step (List Node)
  | 0 => failure
  | fuel + 1 => do
    match ← peek with
    | some .blockEntry =>
      skip
      let item ← nodeUnless [.blockEntry, .blockEnd] true false fuel
      return item :: (← blockItems fuel)
    | some .blockEnd => skip; return []
    | _ => failure

/-- The items of a sequence that is not indented against the mapping around it. -/
def indentlessItems : Nat → Step (List Node)
  | 0 => failure
  | fuel + 1 => do
    if ← atOneOf [.blockEntry] then
      skip
      let item ← nodeUnless [.blockEntry, .key, .value, .blockEnd] true false fuel
      return item :: (← indentlessItems fuel)
    else return []

/-- The fields of a block mapping. -/
def blockFields : Nat → Step (List (Node × Node))
  | 0 => failure
  | fuel + 1 => do
    match ← peek with
    | some .key =>
      skip
      let key ← nodeUnless [.key, .value, .blockEnd] true true fuel
      let value ← valueUnless [.key, .value, .blockEnd] true true fuel
      return (key, value) :: (← blockFields fuel)
    | some .blockEnd => skip; return []
    | _ => failure

/-- The items of a flow sequence; an item may be a mapping with one field and no braces. A key
that is left out there takes the token after its mark with it. -/
def flowItems (first : Bool) : Nat → Step (List Node)
  | 0 => failure
  | fuel + 1 => do
    if !first && !(← atOneOf [.flowEntry, .flowSequenceEnd]) then failure
    if ← atOneOf [.flowEntry] then
      if first then failure
      skip
    if ← atOneOf [.flowSequenceEnd] then
      skip
      return []
    let item ←
      if ← atOneOf [.key] then
        skip
        let blankKey ← atOneOf [.value, .flowEntry, .flowSequenceEnd]
        let key ← nodeUnless [.value, .flowEntry, .flowSequenceEnd] false false fuel
        if blankKey then skip
        let value ← valueUnless [.flowEntry, .flowSequenceEnd] false false fuel
        pure (Node.mapping {} [(key, value)])
      else node false false fuel
    return item :: (← flowItems false fuel)

/-- The fields of a flow mapping; a node without a mark in front is a key with a blank value. -/
def flowFields (first : Bool) : Nat → Step (List (Node × Node))
  | 0 => failure
  | fuel + 1 => do
    if !first && !(← atOneOf [.flowEntry, .flowMappingEnd]) then failure
    if ← atOneOf [.flowEntry] then
      if first then failure
      skip
    if ← atOneOf [.flowMappingEnd] then
      skip
      return []
    let field ←
      if ← atOneOf [.key] then
        skip
        let key ← nodeUnless [.value, .flowEntry, .flowMappingEnd] false false fuel
        let value ← valueUnless [.flowEntry, .flowMappingEnd] false false fuel
        pure (key, value)
      else pure (← node false false fuel, Node.blank)
    return field :: (← flowFields false fuel)

end

end Parse

/-! ### Documents -/

/-- The directives in front of a document: one version at most, which is 1.1 or 1.2, and one
replacement for each handle. -/
def directives? (d : Directives) : List Token → Option (Directives × List Token)
  | .version major minor :: ts =>
    if d.versioned || major != 1 || (minor != 1 && minor != 2) then none
    else directives? { d with versioned := true } ts
  | .tagHandle handle replacement :: ts =>
    if d.handles.any (·.1 == handle) then none
    else directives? { d with handles := d.handles ++ [(handle, replacement)] } ts
  | ts => some (d, ts)

/-- The handles that are known without a directive. -/
def standardHandles : List (String × String) :=
  [("!", "!"), ("!!", "tag:yaml.org,2002:")]

/-- Whether a token starts a directive or a document. -/
def Token.isBoundary : Token → Bool
  | .version _ _ => true
  | .tagHandle _ _ => true
  | .documentStart => true
  | .documentEnd => true
  | _ => false

/-- The node of the only document in some tokens; none at all, if there is no document. -/
def node? (tokens : List Token) : Option (Option Node) := do
  if tokens.isEmpty then return none
  let (d, rest) ← directives? {} tokens
  let handles := d.handles ++ standardHandles
  let explicit := rest.head? == some .documentStart
  if !explicit && rest.length != tokens.length then failure
  let content := if explicit then rest.drop 1 else rest
  if explicit && content.head?.all Token.isBoundary then
    finish content Node.blank
  else
    let (node, s) ← (Parse.node true false (3 * tokens.length + 3)).run
      { tokens := content, handles }
    finish s.tokens node
where
  /-- Checks that no other document follows. -/
  finish (rest : List Token) (node : Node) : Option (Option Node) :=
    if rest.all (· == .documentEnd) then some (some node) else none

end EventFlow.Yaml
