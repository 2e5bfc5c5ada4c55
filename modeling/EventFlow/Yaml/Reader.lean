import EventFlow.Document.Basic
import EventFlow.Yaml.Node.Parse
import EventFlow.Yaml.Scalar
import EventFlow.Yaml.Token.Scan

/-!
# Reading YAML

A text with one document is read as a node, and a node as a `Document`. Aliases are followed while
reading, a hundred times as often as the document has marks and no more, and at most 128
collections are nested. Tags of the standard's schema force the meaning of a scalar, tags of other
schemas make it a text, and tags of the document's own are refused.
-/

namespace EventFlow.Yaml

/-- The document of a text, with what its aliases stand for. -/
structure Stream where
  /-- The root node, if the text has a document at all. -/
  root : Option Node
  /-- The nodes with anchors, last one first. -/
  targets : List (Nat × Node)
  /-- How often aliases may be followed. -/
  jumps : Nat

/-- The document of a text, unless the text is malformed or has several documents. -/
def stream? (text : String) : Option Stream := do
  let root ← node? (← tokens? text)
  return {
    root
    targets := (root.map Node.targets).getD [] |>.reverse
    jumps := 100 * (root.map Node.weight).getD 1 }

/-- How many collections may be nested. -/
def maxDepth : Nat := 128

/-! ### Following aliases -/

/-- A step of reading: it knows the nodes with anchors, counts the aliases that may still be
followed, and may fail. -/
abbrev Read := ReaderT (List (Nat × Node)) (StateT Nat Option)

/-- The node that a node stands for. -/
def follow (node : Node) : Read Node := do
  match node with
  | .aliasOf number =>
    match ← get with
    | 0 => failure
    | jumps + 1 =>
      set jumps
      match (← read).find? (·.1 == number) with
      | some (_, target) => return target
      | none => failure
  | node => return node

/-- Reads the root of a stream; a stream without a document reads as `none`. -/
def Stream.read? {α : Type} (s : Stream) (f : Option Node → Read α) : Option α :=
  ((f s.root).run s.targets).run' s.jumps

/-! ### Scalars -/

/-- Whether a tag belongs to the document alone. -/
def isLocalTag (tag : Option String) : Bool :=
  tag.any (·.startsWith "!")

/-- The integer, if it fits into 64 bits. -/
def int64? (n : Int) : Option Int :=
  if -(Nat.pow 2 63 : Int) ≤ n && n < (Nat.pow 2 64 : Int) then some n else none

/-- The document of a floating-point number; only finite ones have one of their own. -/
def documentOfFloat (x : Float) : Document :=
  if x.isFinite then .float (.ofFloat x) else .null

/-- The meaning of a scalar with its tag. -/
def scalar? (tag : Option String) (text : String) (plain : Bool) : Option Scalar :=
  match tag with
  | some "tag:yaml.org,2002:bool" => (bool? text).map .bool
  | some "tag:yaml.org,2002:int" => (int? text.toList).map .int
  | some "tag:yaml.org,2002:float" => (float? text).map .float
  | some "tag:yaml.org,2002:null" => if isNullWord text then some .null else none
  | some tag => if isLocalTag tag then none else some (.text text)
  | none => some (if plain then resolve text else .text text)

/-- The document of a scalar's meaning. -/
def documentOfScalar? : Scalar → Option Document
  | .null => some .null
  | .bool b => some (.bool b)
  | .int n => (int64? n).map .int
  | .float x => some (documentOfFloat x)
  | .text s => some (.text s)

/-! ### Documents -/

/-- The text of a scalar, whatever it looks like and whatever its tag. -/
def textOf (node : Node) : Read String := do
  match ← follow node with
  | .scalar _ text _ => return text
  | _ => failure

/-- The document of a node, in which so many collections may be nested. -/
def documentOf : Nat → Node → Read Document
  | depth, node => do
    let node ← follow node
    if isLocalTag node.tag then failure
    match node, depth with
    | .scalar p text plain, _ =>
      match (scalar? p.tag text plain).bind documentOfScalar? with
      | some d => return d
      | none => failure
    | .sequence _ items, depth + 1 => return .list (← items.mapM (documentOf depth))
    | .mapping _ fields, depth + 1 =>
      return Document.ofFields (← fields.mapM fun field => do
        let key ← textOf field.1
        return (key, ← documentOf depth field.2))
    | _, _ => failure

/-- The document of a text, unless it is malformed. -/
def read? (text : String) : Option Document := do
  (← stream? text).read? fun root =>
    match root with
    | none => return .null
    | some node => documentOf maxDepth node

end EventFlow.Yaml
