import EventFlow.Diagnostic
import EventFlow.Log.Record
import EventFlow.Manifest.Basic
import EventFlow.Manifest.TypeNotation
import EventFlow.Pipeline.Composition
import EventFlow.Text.Blank

/-!
# From a manifest to a pipeline

A manifest is checked in two rounds. `Manifest.validate` looks at its structure: the version, the
name, the order of the steps and the resources they name. `Manifest.build` then follows the type
that flows from step to step, together with the number of open fan-outs, and lowers the composition
that the steps describe.
-/

namespace EventFlow

/-- Why a manifest describes no pipeline. Positions of steps count from one. -/
inductive ManifestError where
  | unreadable (path reason : String)
  | unparsable
  | unsupportedVersion (found : String)
  | emptyName
  | noSteps
  | unknownResource (step : Nat) (kind id : String)
  | unknownDeadLetterQueue (id : String)
  | missingSource (step : Nat) (found : String)
  | misplacedSource (step : Nat) (found : String)
  | stepAfterSink (step : Nat) (found : String)
  | missingSink
  | typeMismatch (step : Nat) (function : String) (expected found : FlowType)
  | notAList (step : Nat) (operation : String) (found : FlowType)
  | unitOutsideFanOut (step : Nat)
  /-- The steps compose to no pipeline. -/
  | composition (error : CompositionError)
  deriving DecidableEq, Repr

namespace ManifestError

/-- A message about a step. -/
def atStep (step : Nat) (detail : String) : String :=
  "step " ++ toString step ++ ": " ++ detail

/-- What is told about a manifest that describes no pipeline. -/
def diagnostic : ManifestError → Diagnostic
  | unreadable path reason =>
    ⟨.io, "PIPE-MAN-001", "failed to read " ++ path ++ ": " ++ reason, [], [], none⟩
  | unparsable =>
    ⟨.serialization, "PIPE-MAN-002", "failed to parse manifest: not a pipeline manifest",
      [], [], none⟩
  | unsupportedVersion found =>
    invalid "PIPE-MAN-003" ("unsupported manifest version " ++ found ++ ", expected "
      ++ Manifest.supportedVersion)
  | emptyName => invalid "PIPE-MAN-004" "pipeline name must not be empty"
  | noSteps => invalid "PIPE-MAN-004" "pipeline must define at least one step"
  | unknownResource step kind id =>
    invalid "PIPE-MAN-005" (atStep step ("unknown " ++ kind ++ " '" ++ id ++ "'"))
  | unknownDeadLetterQueue id =>
    invalid "PIPE-MAN-005" ("dead_letter_queue '" ++ id ++ "' is not a declared queue")
  | missingSource step found =>
    invalid "PIPE-MAN-006" (atStep step ("pipeline must start with from, found " ++ found))
  | misplacedSource step found =>
    invalid "PIPE-MAN-006" (atStep step (found ++ " is only allowed as the first step"))
  | stepAfterSink step found =>
    invalid "PIPE-MAN-006" (atStep step (found ++ " after the terminal sink"))
  | missingSink => illTyped "PIPE-COMP-003" "pipeline must end with to_queue or to_event_bus"
  | typeMismatch step function expected found =>
    illTyped "PIPE-COMP-001" (atStep step
      (function ++ " expects " ++ expected.text ++ ", got " ++ found.text))
  | notAList step operation found =>
    illTyped "PIPE-COMP-001" (atStep step (operation ++ " requires a list, got " ++ found.text))
  | unitOutsideFanOut step =>
    illTyped "PIPE-COMP-002" (atStep step "unit applied outside of a fan-out context")
  | composition error => error.diagnostic
where
  /-- A manifest that is wrong in its structure. -/
  invalid (code message : String) : Diagnostic :=
    ⟨.validation, code, message, [], [], none⟩
  /-- A manifest whose steps do not fit together. -/
  illTyped (code message : String) : Diagnostic :=
    ⟨.composition, code, message, [], [], none⟩

end ManifestError

namespace Manifest

/-! ### Structure -/

/-- Checks that the resources of a step are declared. -/
def checkReferences (m : Manifest) (position : Nat) (step : Step) : Except ManifestError Unit :=
  let declared (kind id : String) (known : Bool) : Except ManifestError Unit :=
    if known then .ok () else .error (.unknownResource position kind id)
  match step with
  | .source bus _ _ => declared "event bus" bus (m.eventBuses.contains bus)
  | .join f => declared "function" f (m.functions.contains f)
  | .lift l => declared "function" l.function (m.functions.contains l.function)
  | .toQueue queue => declared "queue" queue (m.queues.contains queue)
  | .toEventBus bus _ _ => declared "event bus" bus (m.eventBuses.contains bus)
  | .wrap => .ok ()
  | .unit => .ok ()

/-- Checks that the source, and only the source, stands first. -/
def checkPosition (position : Nat) (step : Step) : Except ManifestError Unit :=
  match step with
  | .source _ _ _ =>
    if position = 1 then .ok () else .error (.misplacedSource position step.name)
  | _ => if position = 1 then .error (.missingSource position step.name) else .ok ()

/-- Checks the steps from a position on. -/
def checkSteps (m : Manifest) (position : Nat) : List Step → Except ManifestError Unit
  | [] => .ok ()
  | step :: steps => do
    checkPosition position step
    match steps with
    | next :: _ => if step.isSink then throw (.stepAfterSink (position + 1) next.name)
    | [] => pure ()
    m.checkReferences position step
    m.checkSteps (position + 1) steps

/-- Checks all that needs no types. -/
def validate (m : Manifest) : Except ManifestError Unit := do
  if m.version ≠ supportedVersion then throw (.unsupportedVersion m.version)
  if Text.isBlankText m.name then throw .emptyName
  if m.steps.isEmpty then throw .noSteps
  match m.deadLetterQueue with
  | some id => if !m.queues.contains id then throw (.unknownDeadLetterQueue id)
  | none => pure ()
  m.checkSteps 1 m.steps
  if !m.steps.getLast?.any Step.isSink then throw .missingSink

/-! ### Types -/

/-- What flows out of a step: a type, and the number of open fan-outs. -/
structure Typing where
  current : FlowType
  openFanOuts : Nat := 0
  deriving DecidableEq, Repr

namespace Typing

/-- The type of the elements of the list that flows. -/
def element (t : Typing) (position : Nat) (operation : String) : Except ManifestError FlowType :=
  match t.current.element? with
  | some element => .ok element
  | none => .error (.notAList position operation t.current)

/-- What a function makes of its argument. -/
def apply (position : Nat) (id : String) (f : FunctionDecl) (argument : FlowType) :
    Except ManifestError FlowType :=
  let input := FlowType.parse f.input
  if input = argument then .ok (FlowType.parse f.output)
  else .error (.typeMismatch position id input argument)

end Typing

/-- A declared function. -/
def function (m : Manifest) (position : Nat) (id : String) : Except ManifestError FunctionDecl :=
  match m.functions.get? id with
  | some f => .ok f
  | none => .error (.unknownResource position "function" id)

/-- A declared bus. -/
def eventBus (m : Manifest) (position : Nat) (id : String) : Except ManifestError Resource :=
  match m.eventBus? id with
  | some bus => .ok bus
  | none => .error (.unknownResource position "event bus" id)

/-- A declared queue. -/
def queue (m : Manifest) (position : Nat) (id : String) : Except ManifestError Resource :=
  match m.queue? id with
  | some queue => .ok queue
  | none => .error (.unknownResource position "queue" id)

/-- The operation of a step after the first, and what flows out of it. -/
def operation (m : Manifest) (position : Nat) (t : Typing) :
    Step → Except ManifestError (Operation × Typing)
  | .source _ _ _ => .error (.misplacedSource position "from")
  | .join id => do
    let f ← m.function position id
    let output ← Typing.apply position id f t.current
    return (.join ⟨⟨id, f.uri⟩, 1⟩, { t with current := output })
  | .lift l => do
    let f ← m.function position l.function
    let element ← t.element position "lift"
    let output ← Typing.apply position l.function f element
    return (.lift ⟨⟨l.function, f.uri⟩, l.concurrency⟩, ⟨output, t.openFanOuts + 1⟩)
  | .wrap => do
    let element ← t.element position "wrap"
    return (.wrap, ⟨element, t.openFanOuts + 1⟩)
  | .unit =>
    if t.openFanOuts = 0 then .error (.unitOutsideFanOut position)
    else .ok (.unit, ⟨.list t.current, t.openFanOuts - 1⟩)
  | .toQueue id => do
    let queue ← m.queue position id
    return (.deliver ⟨.queue queue, t.current.text⟩, t)
  | .toEventBus id source categories => do
    let bus ← m.eventBus position id
    return (.deliver ⟨.eventBus bus source categories, t.current.text⟩, t)

/-! ### Building -/

/-- A step of a build, which tells what it does and may fail. -/
abbrev Building := ExceptT ManifestError (StateM (List Log.Record))

/-- Tells what flows out of a step. -/
def tellTyped (position : Nat) (step : Step) (t : Typing) : Building Unit :=
  modify fun journal => journal ++ [{
    level := .debug
    target := "morphflow::core::pipeline::manifest"
    message := "manifest step typed"
    fields := [("step", .number position), ("kind", .name step.name),
      ("flowing", .shown t.current.text)] }]

/-- The operations of the steps from a position on. -/
def operations (m : Manifest) (position : Nat) (t : Typing) :
    List Step → Building (List Operation)
  | [] => return []
  | step :: steps => do
    let (op, t) ← liftExcept (m.operation position t step)
    tellTyped position step t
    return op :: (← m.operations (position + 1) t steps)
where
  /-- A result that tells nothing. -/
  liftExcept {α : Type} (x : Except ManifestError α) : Building α :=
    ExceptT.mk (pure x)

/-- The composition that the steps describe. -/
def compose (m : Manifest) : Building Composition := do
  match m.steps with
  | [] => throw .noSteps
  | .source bus typeName categories :: steps =>
    let bus ← operations.liftExcept (m.eventBus 1 bus)
    let t : Typing := { current := FlowType.parse typeName }
    tellTyped 1 (.source bus.id typeName categories) t
    return ⟨⟨bus, categories, t.current.text⟩, ← m.operations 2 t steps⟩
  | step :: _ => throw (.missingSource 1 step.name)

/-- The pipeline of a manifest, and what was told on the way. -/
def buildWithJournal (m : Manifest) : Except ManifestError Pipeline × List Log.Record :=
  let build : Building Pipeline := do
    operations.liftExcept m.validate
    let composition ← m.compose
    operations.liftExcept (composition.lower.mapError .composition)
  build.run.run []

/-- The pipeline of a manifest. -/
def build (m : Manifest) : Except ManifestError Pipeline :=
  m.buildWithJournal.1

end Manifest

end EventFlow
