import EventFlow.Document.Json.Writer
import EventFlow.Log.Record

/-!
# Log lines

A record as a line on the console, and as a line of JSON in a log file. Names are quoted on the
console; in the file every value is a text or a number.
-/

namespace EventFlow.Log

/-- A value on the console. -/
def Value.consoleText : Value → String
  | shown text => text
  | name text => Text.quoted text
  | number n => toString n

/-- A value in a log file. -/
def Value.document : Value → Document
  | shown text => .text text
  | name text => .text text
  | number n => Document.ofNat n

namespace Record

/-- A line on the console. -/
def consoleLine (r : Record) : String :=
  let level := r.level.name
  let padding := String.ofList (List.replicate (5 - level.length) ' ')
  let fields := r.fields.map fun f => " " ++ f.1 ++ "=" ++ f.2.consoleText
  padding ++ level ++ " " ++ r.message ++ String.join fields ++ "\n"

/-- A line in a log file, with the time at which it is written. -/
def fileLine (time : String) (r : Record) : String :=
  let fields : List (String × Document) :=
    [("timestamp", .text time), ("level", .text r.level.name), ("message", .text r.message)]
      ++ r.fields.map fun f => (f.1, f.2.document)
  Json.writeCompact (.table fields) ++ "\n"

end Record

end EventFlow.Log
