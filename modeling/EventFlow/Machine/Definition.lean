import EventFlow.Document.Basic
import EventFlow.Machine.State

/-!
# Definitions

The form in which a compiled pipeline is deployed: the definition of its machine in the States
Language, next to the rule that starts it. Each chain becomes a table of states by name, in which
every state points to the one after it; the states of a branch stand in the table of the state that
they protect.
-/

namespace EventFlow.Machine

/-- Calls a function. -/
def invokeResource : String := "arn:aws:states:::lambda:invoke"

/-- Sends a message to a queue. -/
def queueResource : String := "arn:aws:states:::sqs:sendMessage"

/-- Puts events on a bus. -/
def eventBusResource : String := "arn:aws:states:::events:putEvents"

/-- A state that runs a task outside. -/
def taskFields (resource : String) (parameters : List (String × Document)) :
    List (String × Document) :=
  [("Type", .text "Task"), ("Resource", .text resource),
    ("Parameters", Document.ofFields parameters)]

/-- A message to a queue. -/
def queueFields (queue : Resource) (input : Path) : List (String × Document) :=
  taskFields queueResource [("QueueUrl", .text queue.uri), ("MessageBody.$", .text input.text)]

/-- The definition of a chain, given the table of its states. -/
def chainDefinition (chain : Chain) (states : List (String × Document)) :
    List (String × Document) :=
  [("StartAt", .text (chain.startAt.getD "")), ("States", .table states)]

/-- Where a state goes next. -/
def transitionFields (kind : StateKind) (next : Option String) : List (String × Document) :=
  match kind, next with
  | .fail, _ => []
  | _, some id => [("Next", .text id)]
  | _, none => [("End", .bool true)]

/-- The branches of a state. -/
def catchFields (catches : List CatchBranch) : List (String × Document) :=
  if catches.isEmpty then []
  else [("Catch", .list (catches.map fun branch =>
    Document.ofFields [
      ("ErrorEquals", Document.ofTexts branch.errors),
      ("ResultPath", .text branch.resultPath.text),
      ("Next", .text ((Chain.startAt branch.states).getD ""))]))]

mutual

/-- What a state does, given where it reads its input from. -/
def kindFields (input : Path) : StateKind → List (String × Document)
  | .invoke function =>
    taskFields invokeResource [("FunctionName", .text function.uri), ("Payload.$", .text "$")]
      ++ [("InputPath", .text input.text)]
  | .forEach items concurrency iterator =>
    [("Type", .text "Map"), ("ItemsPath", .text items.text),
      ("MaxConcurrency", Document.ofNat concurrency),
      ("ItemProcessor", Document.ofFields
        (chainDefinition iterator (insertChain iterator [])
          ++ [("ProcessorConfig", Document.ofFields [("Mode", .text "INLINE")])]))]
  | .sendToQueue queue => queueFields queue input
  | .sendToEventBus bus source detailType =>
    taskFields eventBusResource [("Entries", .list [Document.ofFields [
      ("Detail.$", .text input.text), ("DetailType", .text detailType),
      ("Source", .text source), ("EventBusName", .text bus.uri)]])]
  | .catchAndForward target => queueFields target input
  | .fail => [("Type", .text "Fail")]

/-- Puts a state, followed by another, and the states of its branches into a table. -/
def insertState (next : Option String) :
    State → List (String × Document) → List (String × Document)
  | ⟨id, input, kind, catches⟩, table =>
    let body := Document.ofFields
      (kindFields input kind ++ transitionFields kind next ++ catchFields catches)
    insertBranches catches (Document.insertField id body table)

/-- Puts the states of some branches into a table. -/
def insertBranches : List CatchBranch → List (String × Document) → List (String × Document)
  | [], table => table
  | ⟨_, _, states⟩ :: branches, table => insertBranches branches (insertChain states table)

/-- Puts the states of a chain into a table. -/
def insertChain : List State → List (String × Document) → List (String × Document)
  | [], table => table
  | state :: states, table =>
    insertChain states (insertState ((List.head? states).map (·.id)) state table)

end

/-- The definition of a machine. -/
def StateMachine.definition (m : StateMachine) : Document :=
  Document.ofFields (chainDefinition m.chain (insertChain m.chain []))

/-- The document of a compiled pipeline: the definition of its machine and the rule. -/
def Compiled.document (c : Compiled) : Document :=
  Document.ofFields [
    ("StateMachine", Document.ofFields [
      ("Name", .text c.machine.name), ("Definition", c.machine.definition)]),
    ("Rule", Document.ofFields [
      ("Name", .text c.rule.name),
      ("EventBusName", .text c.rule.bus.uri),
      ("EventPattern", Document.ofFields [("detail-type", Document.ofTexts c.rule.detailTypes)]),
      ("Targets", .list [Document.ofFields [
        ("Id", .text "Target0"), ("StateMachine", .text c.rule.target)]])])]

end EventFlow.Machine
