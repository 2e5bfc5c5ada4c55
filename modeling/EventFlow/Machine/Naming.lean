import EventFlow.Digest.Sha256

/-!
# Names of states

The name of a state follows from what the state does: a call and its error branch are named after
the function, the sink has a fixed name, and a fan-out is named after the names of the states that
it runs, through the first eight digits of their digest.
-/

namespace EventFlow.Machine.Naming

/-- The state that delivers the result. -/
def sink : String := "Sink"

/-- The state that calls a function. -/
def invoke (function : String) : String := "Map" ++ function

/-- The state that forwards the failed input of a function. -/
def forward (function : String) : String := "Try" ++ function

/-- The state that ends the machine after a function failed. -/
def fail (function : String) : String := "Err" ++ function

/-- The state that runs others for each element of a list, given their names one after the
other. -/
def fanOut (names : String) : String :=
  "Seq" ++ String.ofList ((Digest.hexDigestOfText names).toList.take 8)

end EventFlow.Machine.Naming
