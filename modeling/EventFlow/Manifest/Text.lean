import EventFlow.Manifest.Build
import EventFlow.Manifest.Document
import EventFlow.Yaml.Reader
import EventFlow.Yaml.Writer

/-!
# Manifests as YAML

In a manifest every field of type text takes a scalar as it stands, whatever it looks like and
whatever its tag. A missing value where a list or a table is expected is an empty one. Only the
value of a lift sees the meaning of its scalars, so that a number there is no function.
-/

namespace EventFlow

namespace Yaml

/-- A node with the number of collections that may be nested in it. -/
structure NodeView where
  depth : Nat
  node : Node

namespace NodeView

/-- A text. -/
def text (v : NodeView) : Read String :=
  textOf v.node

/-- Nothing for a plain scalar that is empty or a word for null; a scalar with the tag of null must
be such a word. -/
def optional (v : NodeView) : Read (Option NodeView) := do
  let node ← follow v.node
  match node with
  | .scalar p text plain =>
    match p.tag with
    | some "tag:yaml.org,2002:null" => if isNullWord text then return none else failure
    | some _ => return some { v with node }
    | none =>
      if plain && (text == "" || isNullWord text) then return none
      else return some { v with node }
  | _ => return some { v with node }

/-- The fields of a mapping; an empty plain scalar has none. -/
def mappingFields (v : NodeView) : Read (List (String × NodeView)) := do
  match ← follow v.node, v.depth with
  | .mapping _ fields, depth + 1 =>
    fields.mapM fun field => do return (← textOf field.1, ⟨depth, field.2⟩)
  | _, _ => failure

/-- Whether a node is left out where a collection is expected. -/
def isBlank : Node → Bool
  | .scalar _ text plain => plain && text == ""
  | _ => false

/-- The items of a sequence. -/
def items (v : NodeView) : Read (List NodeView) := do
  let node ← follow v.node
  if isBlank node then return []
  match node, v.depth with
  | .sequence _ items, depth + 1 => return items.map fun item => ⟨depth, item⟩
  | _, _ => failure

/-- The fields of a table. -/
def entries (v : NodeView) : Read (List (String × NodeView)) := do
  let node ← follow v.node
  if isBlank node then return []
  mappingFields { v with node }

/-- The fields of a record, of which none may be given twice. -/
def fields (names : List String) (v : NodeView) : Read (String → Option NodeView) := do
  let fields ← v.mappingFields
  let given := (fields.map (·.1)).filter names.contains
  if names.any (fun name => given.count name > 1) then failure
  return fun name => Document.lookupField name fields

/-- A word, or a mapping with one field. -/
def choice (v : NodeView) : Read (String × Option NodeView) := do
  let node ← follow v.node
  if isLocalTag node.tag then failure
  match node with
  | .scalar p text plain =>
    match scalar? p.tag text plain with
    | some (.text word) => return (word, none)
    | _ => failure
  | _ =>
    match ← mappingFields { v with node } with
    | [(name, value)] => return (name, some value)
    | _ => failure

/-! ### Lifts -/

/-- The meaning of a scalar; an integer must fit into 64 bits. -/
def scalarMeaning (p : Properties) (text : String) (plain : Bool) : Read Scalar :=
  match scalar? p.tag text plain with
  | some (.int n) => if (int64? n).isSome then return .int n else failure
  | some s => return s
  | none => failure

/-- The meaning of a scalar, or none for a collection, in which so many may be nested; all of its
content must have a meaning. -/
def meaning : Nat → Node → Read (Option Scalar)
  | depth, node => do
    let node ← follow node
    if isLocalTag node.tag then failure
    match node, depth with
    | .scalar p text plain, _ => return some (← scalarMeaning p text plain)
    | .sequence _ items, depth + 1 =>
      let _ ← items.mapM (meaning depth)
      return none
    | .mapping _ fields, depth + 1 =>
      let _ ← fields.mapM fun field => do
        let _ ← meaning depth field.1
        meaning depth field.2
      return none
    | _, _ => failure

/-- The fields of a lift: the function and the bound. -/
inductive LiftField where
  | function
  | concurrency
  | other
  deriving DecidableEq

/-- The field that a key names, by its name or by its position. -/
def liftField? : Option Scalar → Option LiftField
  | some (.text "function") => some .function
  | some (.text "concurrency") => some .concurrency
  | some (.text _) => some .other
  | some (.int n) =>
    if n = 0 then some .function
    else if n = 1 then some .concurrency
    else if n > 1 then some .other
    else none
  | _ => none

/-- The values given to a field. -/
def valuesOf (field : LiftField) (fields : List (LiftField × Option Scalar)) :
    List (Option Scalar) :=
  (fields.filter (·.1 = field)).map (·.2)

/-- The lift of a function with a bound that may be missing or null. -/
def boundedLift? (fields : List (LiftField × Option Scalar)) : Option Lift :=
  match valuesOf .function fields, valuesOf .concurrency fields with
  | [some (.text function)], [] => some (.bounded function none)
  | [some (.text function)], [some .null] => some (.bounded function none)
  | [some (.text function)], [some (.int n)] => (bound? n).map fun n => .bounded function (some n)
  | _, _ => none

/-- The function of a lift, as a scalar or as a mapping. -/
def lift (v : NodeView) : Read Lift := do
  let node ← follow v.node
  if isLocalTag node.tag then failure
  match node, v.depth with
  | .scalar p text plain, _ =>
    match scalar? p.tag text plain with
    | some (.text function) => return .plain function
    | _ => failure
  | .mapping _ fields, depth + 1 =>
    let fields ← fields.mapM fun field => do
      let key ← meaning depth field.1
      let value ← meaning depth field.2
      match liftField? key with
      | some name => return (name, value)
      | none => failure
    match boundedLift? fields with
    | some l => return l
    | none => failure
  | _, _ => failure

instance : View Read NodeView where
  refuse := failure
  text := text
  optional := optional
  items := items
  entries := entries
  fields := fields
  choice := choice
  lift := lift

end NodeView

end Yaml

namespace Manifest

/-- The manifest of a text, as it stands. -/
def ofText? (text : String) : Option Manifest := do
  (← Yaml.stream? text).read? fun root =>
    match root with
    | some node => Manifest.read (⟨Yaml.maxDepth, node⟩ : Yaml.NodeView)
    | none => failure

/-- The manifest of a text, if its structure is in order. -/
def parse (text : String) : Except ManifestError Manifest := do
  match ofText? text with
  | none => throw .unparsable
  | some m =>
    m.validate
    return m

/-- The text of a manifest. -/
def text (m : Manifest) : String :=
  Yaml.write m.document

end Manifest

end EventFlow
