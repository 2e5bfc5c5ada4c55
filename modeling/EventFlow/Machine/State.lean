import EventFlow.Machine.Path
import EventFlow.Pipeline.Node

/-!
# State machines

A chain of states runs from the first to the last. A state calls a function, runs a chain for each
element of a list, or delivers the result; a state may have branches that take over when it fails.
A compiled pipeline is such a machine together with the rule that starts it.
-/

namespace EventFlow.Machine

mutual

/-- A state: its name, where it reads its input from, what it does, and what happens when that
fails. -/
structure State where
  id : String
  input : Path
  kind : StateKind
  catches : List CatchBranch

/-- What a state does. -/
inductive StateKind where
  | invoke (function : Resource)
  | forEach (items : Path) (concurrency : Nat) (iterator : List State)
  | sendToQueue (queue : Resource)
  | sendToEventBus (bus : Resource) (source detailType : String)
  | catchAndForward (target : Resource)
  | fail

/-- What happens on some errors: the input, extended by the error, flows into other states. -/
structure CatchBranch where
  errors : List String
  resultPath : Path
  states : List State

end

deriving instance Repr for State, StateKind, CatchBranch

instance : Inhabited StateKind := ⟨.fail⟩

instance : Inhabited State := ⟨⟨"", .root, .fail, []⟩⟩

instance : Inhabited CatchBranch := ⟨⟨[], .root, []⟩⟩

/-- Linear sequences of states. -/
abbrev Chain := List State

/-- The matcher of every error. -/
def allErrors : String := "States.ALL"

namespace StateKind

/-- The name of a kind of state. -/
def name : StateKind → String
  | invoke _ => "Invoke"
  | forEach _ _ _ => "ForEach"
  | sendToQueue _ => "SendToQueue"
  | sendToEventBus _ _ _ => "SendToEventBus"
  | catchAndForward _ => "CatchAndForward"
  | fail => "Fail"

/-- Whether a machine ends with a state of this kind. -/
def isTerminal : StateKind → Bool
  | sendToQueue _ => true
  | sendToEventBus _ _ _ => true
  | fail => true
  | _ => false

end StateKind

mutual

/-- A state with the states of its iterator and its branches. -/
def State.reachable : State → List State
  | ⟨id, input, kind, catches⟩ =>
    ⟨id, input, kind, catches⟩ :: (kind.reachable ++ reachableOfBranches catches)

/-- The states of an iterator. -/
def StateKind.reachable : StateKind → List State
  | .forEach _ _ iterator => reachableOfChain iterator
  | _ => []

/-- The states of the branches of a state. -/
def reachableOfBranches : List CatchBranch → List State
  | [] => []
  | ⟨_, _, states⟩ :: branches => reachableOfChain states ++ reachableOfBranches branches

/-- The states of a chain, those of iterators and branches included, depth first. -/
def reachableOfChain : List State → List State
  | [] => []
  | state :: states => state.reachable ++ reachableOfChain states

end

/-- The states of a chain, those of iterators and branches included, depth first. -/
def Chain.allStates (chain : Chain) : List State :=
  reachableOfChain chain

/-- The name of the first state. -/
def Chain.startAt (chain : Chain) : Option String :=
  (List.head? chain).map (·.id)

/-- A named chain. -/
structure StateMachine where
  name : String
  chain : Chain
  deriving Repr, Inhabited

/-- What starts a machine: events of some categories on a bus. -/
structure TriggerRule where
  name : String
  bus : Resource
  detailTypes : List String
  /-- The machine that is started. -/
  target : String
  deriving DecidableEq, Repr, Inhabited

/-- A machine and the rule that starts it. -/
structure Compiled where
  machine : StateMachine
  rule : TriggerRule
  deriving Repr, Inhabited

end EventFlow.Machine
