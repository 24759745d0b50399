/-!
# Clocks and calendar times

A clock stands at a number of microseconds since the start of 1970 and moves on by a step with each
reading. `Moment` is a time of the calendar in UTC.
-/

namespace Sabotage

/-- A clock: where it stands, and how far a reading moves it on. -/
structure Clock where
  now : Nat
  step : Nat
  deriving DecidableEq, Repr

namespace Clock

/-- Reads a clock. -/
def read (c : Clock) : Nat × Clock :=
  (c.now, { c with now := c.now + c.step })

/-- A number of microseconds as seconds. -/
def seconds (micros : Nat) : Float :=
  micros.toFloat / 1000000

end Clock

/-- A time of the calendar. -/
structure Moment where
  year : Nat
  month : Nat
  day : Nat
  hour : Nat
  minute : Nat
  second : Nat
  micro : Nat
  deriving DecidableEq, Repr

namespace Moment

/-- Year, month and day of a day counted from the start of 1970. Years are counted here from the
first of March, so that the day of a leap year comes last. -/
def date (days : Nat) : Nat × Nat × Nat :=
  let z := days + 719468
  let era := z / 146097
  let doe := z % 146097
  let yoe := (doe - doe / 1460 + doe / 36524 - doe / 146096) / 365
  let doy := doe - (365 * yoe + yoe / 4 - yoe / 100)
  let mp := (5 * doy + 2) / 153
  let day := doy - (153 * mp + 2) / 5 + 1
  let month := if mp < 10 then mp + 3 else mp - 9
  let year := yoe + era * 400 + (if month ≤ 2 then 1 else 0)
  (year, month, day)

/-- The time of a number of microseconds since the start of 1970. -/
def ofMicros (micros : Nat) : Moment :=
  let seconds := micros / 1000000
  let (year, month, day) := date (seconds / 86400)
  let rest := seconds % 86400
  ⟨year, month, day, rest / 3600, rest / 60 % 60, rest % 60, micros % 1000000⟩

/-- A number with zeros before it up to a width. -/
def padded (width n : Nat) : String :=
  let digits := Nat.toDigits 10 n
  String.ofList (List.replicate (width - digits.length) '0' ++ digits)

/-- A time as one word, whose order as a text is its order in time. -/
def stamp (m : Moment) : String :=
  padded 4 m.year ++ padded 2 m.month ++ padded 2 m.day ++ "_" ++ padded 2 m.hour
    ++ padded 2 m.minute ++ padded 2 m.second ++ "_" ++ padded 6 m.micro

/-- A time for people to read. -/
def legible (m : Moment) : String :=
  padded 4 m.year ++ "-" ++ padded 2 m.month ++ "-" ++ padded 2 m.day ++ " " ++ padded 2 m.hour
    ++ ":" ++ padded 2 m.minute ++ ":" ++ padded 2 m.second

end Moment

end Sabotage
