/-!
# Tokens

What a stream of YAML is made of between its characters and its nodes. Block structure, which the
text shows by indentation alone, has tokens of its own. Whether a key starts somewhere is known
only when its colon is met, so the scan leaves a numbered `mayBeKey` there, to be settled
afterwards.
-/

namespace EventFlow.Yaml

/-- A piece of a stream. -/
inductive Token where
  | version (major minor : Nat)
  | tagHandle (handle replacement : String)
  | documentStart
  | documentEnd
  | blockSequenceStart
  | blockMappingStart
  | blockEnd
  | flowSequenceStart
  | flowSequenceEnd
  | flowMappingStart
  | flowMappingEnd
  | blockEntry
  | flowEntry
  | key
  | value
  | aliasOf (name : String)
  | anchor (name : String)
  | tag (handle suffix : String)
  | scalar (text : String) (plain : Bool)
  | mayBeKey (number : Nat)
  deriving Repr, DecidableEq

end EventFlow.Yaml
