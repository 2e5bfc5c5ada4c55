/-!
# Points in time

A point in time is a number of microseconds since the beginning of 1970. It is written as a date and
a time of day in the Gregorian calendar, without leap seconds. Years are counted from March on,
so that the day that comes and goes stands at the end of a year: every four hundred years have the
same number of days, and the months of a year start on days that lie on a line.
-/

namespace EventFlow.Log

/-- A day of the calendar. -/
structure Date where
  year : Nat
  month : Nat
  day : Nat
  deriving DecidableEq, Repr

/-- The day with a number, counted from the first of January 1970. -/
def Date.ofDayNumber (number : Nat) : Date :=
  -- Days from the first of March of the year 0 to the first of January 1970.
  let days := number + 719468
  let era := days / 146097
  let dayOfEra := days % 146097
  let yearOfEra := (dayOfEra - dayOfEra / 1460 + dayOfEra / 36524 - dayOfEra / 146096) / 365
  let dayOfYear := dayOfEra - (365 * yearOfEra + yearOfEra / 4 - yearOfEra / 100)
  let month := (5 * dayOfYear + 2) / 153
  let day := dayOfYear - (153 * month + 2) / 5 + 1
  if month < 10 then ⟨yearOfEra + era * 400, month + 3, day⟩
  else ⟨yearOfEra + era * 400 + 1, month - 9, day⟩

/-- A number with zeros in front of it up to a width. -/
def padded (width n : Nat) : String :=
  let digits := toString n
  String.ofList (List.replicate (width - digits.length) '0') ++ digits

/-- The text of a point in time. -/
def timeText (microseconds : Nat) : String :=
  let seconds := microseconds / 1000000
  let date := Date.ofDayNumber (seconds / 86400)
  let time := seconds % 86400
  padded 4 date.year ++ "-" ++ padded 2 date.month ++ "-" ++ padded 2 date.day ++ "T"
    ++ padded 2 (time / 3600) ++ ":" ++ padded 2 (time / 60 % 60) ++ ":" ++ padded 2 (time % 60)
    ++ "." ++ padded 6 (microseconds % 1000000) ++ "Z"

end EventFlow.Log
