import EventFlow.Log.Record
import EventFlow.Machine.Naming
import EventFlow.Machine.State
import EventFlow.Pipeline.Walk

/-!
# Building a state machine along a walk

A `Builder` visits a pipeline and lays out its states. It keeps a chain for the top level and one
for each open fan-out, together with the names of the states in it, the path from which the next
state reads, and the names used so far, which no two states may share. Leaving a fan-out turns its
chain into one state of the chain around it; leaving the pipeline puts the machine together.

A refused hook leaves the builder as it was when the fault was found, so what it holds stays
well-defined however the hooks are called.
-/

namespace EventFlow.Machine

/-- What a machine is compiled with. -/
structure Options where
  machineName : String := "StateMachine"
  ruleName : String := "Rule"
  /-- The queue that gets the input of failed calls together with the error. -/
  deadLetter : Option Resource := none
  deriving DecidableEq, Repr, Inhabited

/-- Why a pipeline has no machine. -/
inductive CompileError where
  | misplaced (node : Misplaced)
  | zeroConcurrency (function : String)
  | duplicateState (id : String)
  /-- A fan-out starts with a node of another kind than a call, or with none. -/
  | fanOutHead (found : Option NodeKind)
  | noSource
  | noStates
  | levelsOpen (count : Nat)
  | notOpened
  | noOpenChain (id : String)
  | incomplete
  deriving DecidableEq, Repr

namespace CompileError

/-- A pipeline whose shape has no machine. -/
def malformed (detail : String) : Diagnostic :=
  { category := .structural
    code := "PIPE-STRUCT-001"
    message := "malformed pipeline definition: " ++ detail }

/-- What is told about a pipeline without a machine. -/
def diagnostic : CompileError → Diagnostic
  | misplaced node => node.diagnostic
  | zeroConcurrency function =>
    { category := .validation
      code := "PIPE-VAL-001"
      message := "function '" ++ function ++ "' has concurrency 0, expected at least 1"
      context := [("function", function)] }
  | duplicateState id =>
    { category := .structural
      code := "PIPE-STRUCT-004"
      message := "duplicate state id '" ++ id ++ "' in pipeline"
      context := [("state", id)]
      hints := ["bind each function at most once per pipeline"] }
  | fanOutHead found =>
    { category := .structural
      code := "PIPE-STRUCT-003"
      message := "fan-out must start with a function invocation, found "
        ++ (found.map NodeKind.label).getD "nothing"
      hints := ["apply lift or join before nesting another fan-out"] }
  | noSource =>
    { category := .structural
      code := "PIPE-STRUCT-002"
      message := "undefined event source for pipeline"
      hints := ["start the pipeline with from"] }
  | noStates => malformed "no states emitted"
  | levelsOpen count => malformed (toString count ++ " fan-out level(s) left open")
  | notOpened => malformed "fan-out closed without being opened"
  | noOpenChain id => malformed ("no open chain for '" ++ id ++ "'")
  | incomplete =>
    { category := .internal
      code := "PIPE-INT-002"
      message := "pipeline traversal did not complete"
      hints := ["walk the whole pipeline before calling finish"] }

end CompileError

/-- The state of a build. -/
structure Builder where
  options : Options
  /-- The chain of the top level, then those of the open fan-outs, innermost last. -/
  chains : List Chain := [[]]
  /-- For each chain the names of its states, one after the other. -/
  names : List String := [""]
  path : PathTracker := {}
  source : Option Resource := none
  /-- The categories of events that start the machine. -/
  filter : List String := []
  /-- The names of all states so far. -/
  emitted : List String := []
  output : Option Compiled := none
  /-- What the build has told so far. -/
  journal : List Log.Record := []
  deriving Repr

/-- A step of a build, which may refuse. -/
abbrev Build := ExceptT CompileError (StateM Builder)

namespace Builder

/-- The part of the program that speaks here. -/
def logTarget : String := "morphflow::core::state_machine::builder"

/-- Tells something. -/
def tell (level : Log.Level) (message : String) (fields : List (String × Log.Value)) : Build Unit :=
  modify fun b => { b with journal := b.journal ++ [⟨level, logTarget, message, fields⟩] }

/-- Claims a name, which no state may have yet. -/
def claim (id : String) : Build Unit := do
  if (← get).emitted.contains id then throw (.duplicateState id)
  modify fun b => { b with emitted := b.emitted ++ [id] }

/-- The names that come with a state: its own and those of the states in its branches. -/
def claimedIds (state : State) : List String :=
  state.id :: state.catches.flatMap fun branch => branch.states.map (·.id)

/-- Adds a state to the innermost open chain. -/
def append (state : State) : Build Unit := do
  match (← get).chains.length with
  | 0 => throw (.noOpenChain state.id)
  | level + 1 =>
    (claimedIds state).forM claim
    tell .debug "state appended" [
      ("state", .shown state.id), ("kind", .name state.kind.name),
      ("input", .shown state.input.text), ("depth", .number level)]
    modify fun b => { b with
      names := b.names.modify level (· ++ state.id)
      chains := b.chains.modify level (· ++ [state]) }

/-- The branch that forwards the failed input of a function to a queue and ends the machine. -/
def catchBranch (function queue : Resource) : CatchBranch :=
  { errors := [allErrors]
    resultPath := .error
    states := [
      ⟨Naming.forward function.id, .root, .catchAndForward queue, []⟩,
      ⟨Naming.fail function.id, .root, .fail, []⟩] }

/-- The state that calls a function. -/
def invokeState (options : Options) (input : Path) (function : Resource) : State :=
  { id := Naming.invoke function.id
    input
    kind := .invoke function
    catches := (options.deadLetter.map (catchBranch function)).toList }

/-- What the state that delivers a result does. -/
def sinkKind (d : Delivery) : StateKind :=
  match d.sink with
  | .queue queue => .sendToQueue queue
  | .eventBus bus source categories =>
    .sendToEventBus bus source (categories.head?.getD d.typeName)

mutual

/-- Whether a node leaves no state: a fan-out that holds nothing but such fan-outs. -/
def isStateless : Node → Bool
  | .fanOut nodes => areStateless nodes
  | _ => false

/-- Whether no node of a chain leaves a state. -/
def areStateless : List Node → Bool
  | [] => true
  | node :: nodes => isStateless node && areStateless nodes

end

/-- The source was entered. -/
def enterSource (s : Source) : Build Unit :=
  modify fun b => { b with
    source := some s.bus
    filter := if s.categories.isEmpty then [s.typeName] else s.categories
    path := b.path.enterEvent }

/-- A call was entered. -/
def enterCall (c : Call) : Build Unit := do
  if c.concurrency = 0 then throw (.zeroConcurrency c.function.id)
  let b ← get
  append (invokeState b.options b.path.current c.function)

/-- The result of a function comes next. -/
def enterResult : Build Unit :=
  modify fun b => { b with path := b.path.enterResult }

/-- A fan-out was entered. -/
def enterFanOut : Build Unit :=
  modify fun b => { b with
    chains := b.chains ++ [[]]
    names := b.names ++ [""]
    path := b.path.pushScope }

/-- A fan-out was left: unless its chain is empty, it becomes a state with the bound of its first
call. -/
def leaveFanOut (depth : Nat) (nodes : List Node) : Build Unit := do
  let b ← get
  if b.chains.length < 2 then throw .notOpened
  let iterator := b.chains.getLast?.getD []
  let accumulated := b.names.getLast?.getD ""
  set { b with chains := b.chains.dropLast, names := b.names.dropLast }
  if iterator.isEmpty then
    modify fun b => { b with path := b.path.collapseScope }
    tell .debug "empty fan-out elided" [("depth", .number depth)]
  else match nodes.find? (!isStateless ·) with
    | some (.call c) =>
      let items := b.path.items?.getD .payload
      modify fun b => { b with path := b.path.popScope }
      append ⟨Naming.fanOut accumulated, .root, .forEach items c.concurrency iterator, []⟩
      enterResult
    | found => throw (.fanOutHead (found.map Node.kind))

/-- The delivery was entered. -/
def enterDeliver (d : Delivery) : Build Unit := do
  append ⟨Naming.sink, (← get).path.current, sinkKind d, []⟩

/-- The pipeline was left: the machine and its rule are put together. -/
def leavePipeline : Build Unit := do
  let b ← get
  if b.chains.length ≠ 1 then throw (.levelsOpen (b.chains.length - 1))
  match b.source with
  | none => throw .noSource
  | some bus =>
    let chain := b.chains.getLast?.getD []
    set { b with chains := [] }
    if chain.isEmpty then throw .noStates
    let machine : StateMachine := ⟨b.options.machineName, chain⟩
    let rule : TriggerRule := ⟨b.options.ruleName, bus, b.filter, machine.name⟩
    modify fun b => { b with names := [], filter := [] }
    tell .info "pipeline compiled" [
      ("state_machine", .shown machine.name),
      ("states", .number machine.chain.allStates.length),
      ("start_at", .name (machine.chain.startAt.getD "")),
      ("detail_type", .names rule.detailTypes)]
    modify fun b => { b with output := some ⟨machine, rule⟩ }

/-- What a builder does at a hook. -/
def visit : Visitor CompileError Builder := fun hook =>
  match hook.moment, hook.subject with
  | .enter, .pipeline _ => pure ()
  | .leave, .pipeline _ => leavePipeline
  | .enter, .source s => enterSource s
  | .leave, .source _ => pure ()
  | .enter, .call c => enterCall c
  | .leave, .call _ => enterResult
  | .enter, .fanOut _ => enterFanOut
  | .leave, .fanOut nodes => leaveFanOut hook.depth nodes
  | .enter, .deliver d => enterDeliver d
  | .leave, .deliver _ => pure ()

/-- The machine, once the pipeline was left. -/
def finish (b : Builder) : Except CompileError Compiled :=
  match b.output with
  | some compiled => .ok compiled
  | none => .error .incomplete

end Builder

/-- The machine of a pipeline, and what was told on the way. -/
def compileWithJournal (options : Options) (pipeline : Pipeline) :
    Except CompileError Compiled × List Log.Record :=
  match (walk .misplaced Builder.visit pipeline).run.run { options } with
  | (.ok (), b) => (b.finish, b.journal)
  | (.error e, b) => (.error e, b.journal)

/-- The machine of a pipeline. -/
def compile (options : Options) (pipeline : Pipeline) : Except CompileError Compiled :=
  (compileWithJournal options pipeline).1

end EventFlow.Machine
