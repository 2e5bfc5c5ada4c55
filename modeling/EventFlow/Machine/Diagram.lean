import EventFlow.Machine.State
import EventFlow.Text.Pieces

/-!
# Diagrams

A compiled pipeline as a directed graph: the rule and the states are its nodes, and an edge leads
from the rule to the first state, from each state to the next one, to the first state of its
iterator and to the first state of each of its branches. The graph is written in the DOT language.
-/

namespace EventFlow.Machine

/-- Why one node leads to another. -/
inductive EdgeKind where
  | trigger
  | next
  | each
  | onError
  deriving DecidableEq, Repr

/-- The label of an edge. -/
def EdgeKind.label : EdgeKind → String
  | trigger => "trigger"
  | next => "next"
  | each => "each"
  | onError => "catch"

/-- A node: the name of a state or a rule, and its kind. -/
structure DiagramNode where
  id : String
  kind : String
  deriving DecidableEq, Repr

/-- An edge between two nodes, given by their numbers. -/
structure Edge where
  source : Nat
  target : Nat
  kind : EdgeKind
  deriving DecidableEq, Repr

/-- Nodes, numbered in order, and edges. -/
structure Diagram where
  nodes : List DiagramNode := []
  edges : List Edge := []
  deriving DecidableEq, Repr

namespace Diagram

/-- Adds a node, which gets the next number. -/
def addNode (id kind : String) (g : Diagram) : Diagram :=
  { g with nodes := g.nodes ++ [⟨id, kind⟩] }

/-- Adds an edge. -/
def addEdge (source target : Nat) (kind : EdgeKind) (g : Diagram) : Diagram :=
  { g with edges := g.edges ++ [⟨source, target, kind⟩] }

/-- Adds an edge to the first state of a chain that was added at a number, unless it is empty. -/
def addEdgeTo (source : Nat) (chain : Chain) (start : Nat) (kind : EdgeKind) (g : Diagram) :
    Diagram :=
  if chain.isEmpty then g else g.addEdge source start kind

mutual

/-- Adds a state with its iterator and its branches; an edge leads to it from the state before. -/
def addState (previous : Option Nat) : State → Diagram → Diagram
  | ⟨id, _, kind, catches⟩, g =>
    let index := g.nodes.length
    let g := g.addNode id kind.name
    let g := match previous with
      | none => g
      | some p => g.addEdge p index .next
    addBranches index catches (addIterator index kind g)

/-- Adds the iterator of a state. -/
def addIterator (index : Nat) : StateKind → Diagram → Diagram
  | .forEach _ _ iterator, g =>
    addEdgeTo index iterator g.nodes.length .each (addChain none iterator g)
  | _, g => g

/-- Adds the branches of a state. -/
def addBranches (index : Nat) : List CatchBranch → Diagram → Diagram
  | [], g => g
  | ⟨_, _, states⟩ :: branches, g =>
    addBranches index branches
      (addEdgeTo index states g.nodes.length .onError (addChain none states g))

/-- Adds the states of a chain. -/
def addChain (previous : Option Nat) : List State → Diagram → Diagram
  | [], g => g
  | state :: states, g => addChain (some g.nodes.length) states (addState previous state g)

end

/-- The diagram of a compiled pipeline. -/
def ofCompiled (c : Compiled) : Diagram :=
  let g := addNode c.rule.name "TriggerRule" {}
  addEdgeTo 0 c.machine.chain g.nodes.length .trigger (addChain none c.machine.chain g)

/-- The number of the last node with a name. -/
def indexOf? (id : String) (g : Diagram) : Option Nat :=
  (g.nodes.zipIdx.reverse.find? (·.1.id == id)).map (·.2)

/-- The names of the nodes to which edges lead from the last node with a name, in order. -/
def successors (id : String) (g : Diagram) : List String :=
  match g.indexOf? id with
  | none => []
  | some index =>
    (g.edges.filter (·.source == index)).filterMap fun e => g.nodes[e.target]?.map (·.id)

/-! ### The DOT language -/

/-- A label: a quote and a backslash get a backslash in front, and a line break ends the line
flush left. -/
def escapeLabel (s : String) : String :=
  String.ofList (s.toList.flatMap fun c =>
    if c == '"' || c == '\\' then ['\\', c]
    else if c == '\n' then ['\\', 'l']
    else [c])

/-- A statement with a label. -/
def statement (subject label : String) : String :=
  "    " ++ subject ++ " [ label = \"" ++ escapeLabel label ++ "\" ]\n"

/-- A diagram in the DOT language. -/
def text (g : Diagram) : String :=
  let nodes := g.nodes.zipIdx.map fun n => statement (toString n.2) (n.1.id ++ "\\n" ++ n.1.kind)
  let edges := g.edges.map fun e =>
    statement (toString e.source ++ " -> " ++ toString e.target) e.kind.label
  "digraph \x7b\n" ++ String.join nodes ++ String.join edges ++ "\x7d\n"

end Diagram

end EventFlow.Machine
