/-!
# Nodes

The tree that a YAML document describes before its scalars get a meaning and its aliases are
followed: scalars, sequences, mappings from nodes to nodes, and aliases. Anchors have numbers, and
an alias stands for the last node in the document that bears its number; `targets` lists the nodes
that bear one.
-/

namespace EventFlow.Yaml

/-- What may stand in front of a node. -/
structure Properties where
  anchor : Option Nat := none
  tag : Option String := none
  deriving Repr, Inhabited

/-- A node of a document. -/
inductive Node where
  | scalar (properties : Properties) (text : String) (plain : Bool)
  | sequence (properties : Properties) (items : List Node)
  | mapping (properties : Properties) (fields : List (Node × Node))
  | aliasOf (anchor : Nat)
  deriving Repr, Inhabited

namespace Node

/-- What stands in front of a node; an alias has no properties. -/
def properties : Node → Properties
  | scalar p _ _ => p
  | sequence p _ => p
  | mapping p _ => p
  | aliasOf _ => {}

/-- The tag of a node. -/
def tag (node : Node) : Option String :=
  node.properties.tag

/-- A plain scalar without text, which stands where a node is left out. -/
def blank : Node :=
  scalar {} "" true

mutual

/-- How many marks a node takes: one for a scalar or an alias, two around the content of a
collection. -/
def weight : Node → Nat
  | scalar _ _ _ => 1
  | sequence _ items => weightItems items + 2
  | mapping _ fields => weightFields fields + 2
  | aliasOf _ => 1

/-- The marks of some nodes. -/
def weightItems : List Node → Nat
  | [] => 0
  | node :: nodes => weight node + weightItems nodes

/-- The marks of some keys and values. -/
def weightFields : List (Node × Node) → Nat
  | [] => 0
  | (key, value) :: fields => weight key + weight value + weightFields fields

end

/-- The anchor of a node with the node. -/
def anchored (node : Node) : List (Nat × Node) :=
  (node.properties.anchor.map (·, node)).toList

mutual

/-- The nodes with anchors, in the order in which they start. -/
def targets : Node → List (Nat × Node)
  | scalar p text plain => anchored (scalar p text plain)
  | sequence p items => anchored (sequence p items) ++ targetsOfItems items
  | mapping p fields => anchored (mapping p fields) ++ targetsOfFields fields
  | aliasOf _ => []

/-- The nodes with anchors among some nodes. -/
def targetsOfItems : List Node → List (Nat × Node)
  | [] => []
  | node :: nodes => targets node ++ targetsOfItems nodes

/-- The nodes with anchors among some keys and values. -/
def targetsOfFields : List (Node × Node) → List (Nat × Node)
  | [] => []
  | (key, value) :: fields => targets key ++ (targets value ++ targetsOfFields fields)

end

end Node

end EventFlow.Yaml
