/-! # Dates

Days of the Gregorian calendar, extended to all years. A date is a year and a day of that year; the
days are also counted through, from the first day of the year one.
-/

namespace Scrutiny.Calendar

/-- Whether a year has a leap day. -/
def isLeap (year : Int) : Bool :=
  year % 4 == 0 && (year % 100 != 0 || year % 400 == 0)

/-- The number of days of a year. -/
def daysOfYear (year : Int) : Nat :=
  if isLeap year then 366 else 365

/-- The lengths of the months of a year. -/
def monthLengths (year : Int) : List Nat :=
  [31, if isLeap year then 29 else 28, 31, 30, 31, 30, 31, 31, 30, 31, 30, 31]

/-- The first year that a date can have. -/
def firstYear : Int := -262143

/-- The last year that a date can have. -/
def lastYear : Int := 262142

/-- A date: a year and a day of it, counted from one. -/
structure Date where
  year : Int
  ordinal : Nat
  deriving Repr, DecidableEq, Inhabited

namespace Date

/-- The date of a year and a day of it. -/
def ofOrdinal? (year : Int) (ordinal : Nat) : Option Date :=
  if firstYear ≤ year ∧ year ≤ lastYear ∧ 1 ≤ ordinal ∧ ordinal ≤ daysOfYear year then
    some ⟨year, ordinal⟩
  else none

/-- The date of a year, a month and a day of it. -/
def ofMonthDay? (year : Int) (month day : Nat) : Option Date :=
  match (monthLengths year)[month - 1]? with
  | some length =>
    if 1 ≤ month ∧ 1 ≤ day ∧ day ≤ length then
      ofOrdinal? year (((monthLengths year).take (month - 1)).foldl (· + ·) day)
    else none
  | none => none

/-- The month and the day of it, given the lengths of the months that may hold a day. -/
def monthDayFrom (month ordinal : Nat) : List Nat → Nat × Nat
  | [] => (month, ordinal)
  | length :: rest =>
    if ordinal ≤ length then (month, ordinal) else monthDayFrom (month + 1) (ordinal - length) rest

/-- The month of a date and the day of it. -/
def monthDay (date : Date) : Nat × Nat :=
  monthDayFrom 1 date.ordinal (monthLengths date.year)

/-- The number of a day: one for the first day of the year one. -/
def dayNumber (date : Date) : Int :=
  let years := date.year - 1
  365 * years + years / 4 - years / 100 + years / 400 + date.ordinal

/-- The date of the day of a number. -/
def ofDayNumber (number : Int) : Date :=
  let day := number - 1
  let era := day / 146097
  let inEra := day % 146097
  let century := min (inEra / 36524) 3
  let inCentury := inEra - century * 36524
  let cycle := inCentury / 1461
  let inCycle := inCentury % 1461
  let year := min (inCycle / 365) 3
  ⟨400 * era + 100 * century + 4 * cycle + year + 1, (inCycle - year * 365).toNat + 1⟩

/-- The day of the week, zero for Monday. -/
def weekday (date : Date) : Nat :=
  ((date.dayNumber - 1) % 7).toNat

/-- The number of the week in its year, where weeks begin on a day of the week and the days before
the first such day are in week zero. -/
def weekFrom (date : Date) (start : Nat) : Nat :=
  (date.ordinal + 6 - (date.weekday + 7 - start) % 7) / 7

/-- The number of weeks of a year, if a week belongs to the year of its Thursday. -/
def isoWeeks (year : Int) : Nat :=
  let first := weekday ⟨year, 1⟩
  if first = 3 ∨ (first = 2 ∧ isLeap year) then 53 else 52

/-- The year that the week of a date belongs to, and the number of the week in it. -/
def isoWeek (date : Date) : Int × Nat :=
  let week := (date.ordinal + 9 - date.weekday) / 7
  if week < 1 then (date.year - 1, isoWeeks (date.year - 1))
  else if week > isoWeeks date.year then (date.year + 1, 1)
  else (date.year, week)

/-- The date of a week that belongs to a year, and a day of the week. -/
def ofIsoWeek? (year : Int) (week weekday : Nat) : Option Date :=
  if 1 ≤ week ∧ week ≤ isoWeeks year then
    let fourth : Date := ⟨year, 4⟩
    let date := ofDayNumber
      (fourth.dayNumber - fourth.weekday + 7 * ((week : Int) - 1) + weekday)
    ofOrdinal? date.year date.ordinal
  else none

/-- The date of a week of a year as `weekFrom` counts them, and a day of the week. -/
def ofWeekFrom? (year : Int) (week weekday start : Nat) : Option Date :=
  let first : Date := ⟨year, 1⟩
  let firstStart : Int := 1 + (start + 7 - first.weekday) % 7
  let ordinal := firstStart + 7 * ((week : Int) - 1) + (weekday + 7 - start) % 7
  if ordinal ≤ 0 then none else ofOrdinal? year ordinal.toNat

end Date

/-- The number of the day at which the count of seconds begins. -/
def epochDay : Int := 719163

/-- The number of seconds of a day. -/
def secondsOfDay : Int := 86400

end Scrutiny.Calendar
