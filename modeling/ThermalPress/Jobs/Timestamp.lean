/-!
# Timestamps

Points in time, in microseconds since the beginning of 1970 (`Timestamp`), their text in universal time, and a clock
that moves by a fixed step at each reading (`Clock.read`).
-/

namespace ThermalPress

/-- A point in time, in microseconds since the beginning of 1970. -/
abbrev Timestamp := Nat

namespace Timestamp

/-- The year, month and day of a number of days since the beginning of 1970.  Years are counted from the first of
March, so that a leap day is the last day of its year. -/
private def dateOf (days : Nat) : Nat × Nat × Nat :=
  let shifted := days + 719468
  let era := shifted / 146097
  let dayOfEra := shifted % 146097
  let yearOfEra := (dayOfEra - dayOfEra / 1460 + dayOfEra / 36524 - dayOfEra / 146096) / 365
  let dayOfYear := dayOfEra - (365 * yearOfEra + yearOfEra / 4 - yearOfEra / 100)
  let month := (5 * dayOfYear + 2) / 153
  let day := dayOfYear - (153 * month + 2) / 5 + 1
  let year := yearOfEra + era * 400
  if month < 10 then (year, month + 3, day) else (year + 1, month - 9, day)

private def padded (width n : Nat) : String :=
  let digits := toString n
  String.ofList (List.replicate (width - digits.length) '0') ++ digits

/-- The date and the time of day, in seconds, with something between them. -/
private def toSeconds (between : String) (t : Timestamp) : String :=
  let seconds := t / 1000000
  let (year, month, day) := dateOf (seconds / 86400)
  let second := seconds % 86400
  padded 4 year ++ "-" ++ padded 2 month ++ "-" ++ padded 2 day ++ between ++ padded 2 (second / 3600) ++ ":" ++
    padded 2 (second / 60 % 60) ++ ":" ++ padded 2 (second % 60)

/-- The text of a point in time; microseconds are left out where there are none. -/
def text (t : Timestamp) : String :=
  let micro := t % 1000000
  toSeconds "T" t ++ (if micro = 0 then "" else "." ++ padded 6 micro) ++ "+00:00"

/-- The date and the time of day for a reader. -/
def plainText (t : Timestamp) : String := toSeconds " " t

end Timestamp

/-- A clock that moves by a step before each reading. -/
structure Clock where
  now : Timestamp
  step : Nat
  deriving DecidableEq, Repr

/-- The reading of a clock, and the clock after it. -/
def Clock.read (clock : Clock) : Timestamp × Clock :=
  let now := clock.now + clock.step
  (now, { clock with now })

end ThermalPress
