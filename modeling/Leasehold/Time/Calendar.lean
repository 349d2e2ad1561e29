import Leasehold.Time.Span

/-!
# Dates

`Calendar.headerDate` writes an instant of the civil clock as requests carry it:
`Mon, 01 Jan 2024 00:00:00 GMT`.  Instants are seconds since the first day of 1970.
-/

namespace Leasehold.Calendar

/-- A day of the calendar. -/
structure Date where
  year : Nat
  month : Nat
  day : Nat
  deriving DecidableEq, Repr

/-- The seconds of a day. -/
def perDay : Nat := 86400

/-- The days from the first of March in the year 0 to the first day of 1970. -/
def daysBeforeEpoch : Nat := 719468

/-- The days of the 400 years after which the calendar repeats. -/
def perCycle : Nat := 146097

/-- The date of a day, counted from the first day of 1970.  Years are counted from March, so that
the leap day is the last one. -/
def dateOf (day : Nat) : Date :=
  let count := day + daysBeforeEpoch
  let inCycle := count % perCycle
  let yearOfCycle := (inCycle - inCycle / 1460 + inCycle / 36524 - inCycle / 146096) / 365
  let dayOfYear := inCycle - (365 * yearOfCycle + yearOfCycle / 4 - yearOfCycle / 100)
  let monthFromMarch := (5 * dayOfYear + 2) / 153
  let month := if monthFromMarch < 10 then monthFromMarch + 3 else monthFromMarch - 9
  let year := yearOfCycle + count / perCycle * 400 + (if month ≤ 2 then 1 else 0)
  ⟨year, month, dayOfYear - (153 * monthFromMarch + 2) / 5 + 1⟩

/-- The names of the days, from the first day of 1970 on. -/
def dayNames : List String := ["Thu", "Fri", "Sat", "Sun", "Mon", "Tue", "Wed"]

/-- The names of the months. -/
def monthNames : List String :=
  ["Jan", "Feb", "Mar", "Apr", "May", "Jun", "Jul", "Aug", "Sep", "Oct", "Nov", "Dec"]

/-- A year in four digits, or behind a sign if it has more. -/
def yearText (year : Nat) : String :=
  if year < 10000 then Span.padded 4 year else "+" ++ toString year

/-- The date and time as a request carries them. -/
def headerDate (seconds : Nat) : String :=
  let day := seconds / perDay
  let time := seconds % perDay
  let date := dateOf day
  dayNames.getD (day % 7) "" ++ ", " ++ Span.padded 2 date.day ++ " " ++
    monthNames.getD (date.month - 1) "" ++ " " ++ yearText date.year ++ " " ++
    Span.padded 2 (time / 3600) ++ ":" ++ Span.padded 2 (time / 60 % 60) ++ ":" ++
    Span.padded 2 (time % 60) ++ " GMT"

end Leasehold.Calendar
