/-!
# Dates and times in logs

A moment is counted from the start of the year 1970. Logs show it in the Gregorian calendar, at
Greenwich.
-/

namespace StatementLens.Log

/-- A date of the Gregorian calendar. -/
structure Date where
  year : Nat
  month : Nat
  day : Nat
  deriving DecidableEq, Repr

namespace Date

/-- Whether a year has a leap day. -/
def isLeap (year : Nat) : Bool := year % 4 = 0 && (year % 100 ≠ 0 || year % 400 = 0)

/-- The number of days of a year. -/
def yearLength (year : Nat) : Nat := if isLeap year then 366 else 365

/-- The numbers of days of the months of a year. -/
def monthLengths (year : Nat) : List Nat :=
  [31, if isLeap year then 29 else 28, 31, 30, 31, 30, 31, 31, 30, 31, 30, 31]

/-- The month and day with a number of days in front of them, in months of some lengths. -/
def monthAndDay (month : Nat) (days : Nat) : List Nat → Nat × Nat
  | [] => (month, days + 1)
  | length :: rest =>
    if days < length then (month, days + 1) else monthAndDay (month + 1) (days - length) rest

/-- The date with a number of days in front of it since the start of a year. The number of years
that are gone through is bounded by `fuel`. -/
def afterYear : Nat → Nat → Nat → Date
  | 0, year, days => ⟨year, 1, days + 1⟩
  | fuel + 1, year, days =>
    if days < yearLength year then
      let (month, day) := monthAndDay 1 days (monthLengths year)
      ⟨year, month, day⟩
    else afterYear fuel (year + 1) (days - yearLength year)

/-- The date with a number of days in front of it since the start of 1970. -/
def ofDays (days : Nat) : Date := afterYear (days / 365 + 1) 1970 days

end Date

/-- Seconds since the start of 1970, and the microseconds after them. -/
structure Moment where
  seconds : Nat
  micros : Nat
  deriving DecidableEq, Repr

/-- A number with zeros in front of it, up to a width. -/
def padded (width n : Nat) : String :=
  let digits := Nat.toDigits 10 n
  String.ofList (List.replicate (width - digits.length) '0' ++ digits)

/-- The text of a date. -/
def Date.text (d : Date) : String :=
  padded 4 d.year ++ "-" ++ padded 2 d.month ++ "-" ++ padded 2 d.day

namespace Moment

/-- The number of seconds of a day. -/
def dayLength : Nat := 24 * 60 * 60

/-- The date of a moment. -/
def date (m : Moment) : Date := .ofDays (m.seconds / dayLength)

/-- The text of a moment. -/
def text (m : Moment) : String :=
  let second := m.seconds % dayLength
  m.date.text ++ "T" ++ padded 2 (second / 3600) ++ ":" ++ padded 2 (second / 60 % 60) ++ ":"
    ++ padded 2 (second % 60) ++ "." ++ padded 6 m.micros ++ "Z"

end Moment

end StatementLens.Log
