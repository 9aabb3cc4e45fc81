/-!
# Points in time as text

A point in time is a number of microseconds since the start of 1970.  Its text has the date, the
time of day, the microseconds unless they are zero, and the offset from world time, which is none.
-/

namespace DefaultCredentials.Log

/-- A day of the calendar. -/
structure Date where
  year : Int
  month : Int
  day : Int
  deriving Repr, DecidableEq

namespace Date

/-- The day that lies a number of days after the start of 1970.  Years are counted from March on,
so that a leap day is the last day of its year. -/
def ofDays (days : Int) : Date :=
  let z := days + 719468
  let era := z / 146097
  let dayOfEra := z % 146097
  let yearOfEra := (dayOfEra - dayOfEra / 1460 + dayOfEra / 36524 - dayOfEra / 146096) / 365
  let dayOfYear := dayOfEra - (365 * yearOfEra + yearOfEra / 4 - yearOfEra / 100)
  let part := (5 * dayOfYear + 2) / 153
  let month := if part < 10 then part + 3 else part - 9
  { year := yearOfEra + era * 400 + (if month ≤ 2 then 1 else 0)
    month := month
    day := dayOfYear - (153 * part + 2) / 5 + 1 }

end Date

def padded (width : Nat) (n : Int) : String :=
  let digits := (toString n).toList
  String.ofList (List.replicate (width - digits.length) '0' ++ digits)

def timestamp (microseconds : Int) : String :=
  let day := 86400000000
  let date := Date.ofDays (microseconds / day)
  let rest := microseconds % day
  let seconds := rest / 1000000
  let fraction := rest % 1000000
  padded 4 date.year ++ "-" ++ padded 2 date.month ++ "-" ++ padded 2 date.day ++ "T"
    ++ padded 2 (seconds / 3600) ++ ":" ++ padded 2 (seconds / 60 % 60) ++ ":"
    ++ padded 2 (seconds % 60)
    ++ (if fraction = 0 then "" else "." ++ padded 6 fraction) ++ "+00:00"

end DefaultCredentials.Log
