import Scrutiny.Calendar.Date
import Scrutiny.Calendar.Fields

/-! # Dates and times from fields

Fields make a date if they name one in one of several ways and agree with it otherwise. A count of
seconds names a date and a time by itself.
-/

namespace Scrutiny.Calendar

/-- Why fields make no date or no time. -/
inductive Shortcoming where
  /-- Too little is known. -/
  | unknown
  /-- What is known fits no date or no time. -/
  | impossible
  deriving Repr, DecidableEq

/-- A time of day. -/
structure Time where
  hour : Nat
  minute : Nat
  /-- At most 60, for a leap second. -/
  second : Nat
  deriving Repr, DecidableEq

namespace Fields

/-- The year that a year, its century and its place in the century make together. -/
def resolveYear (year century yearOfCentury : Option Int) : Except Shortcoming (Option Int) :=
  match year, century, yearOfCentury with
  | year, none, none => .ok year
  | some year, century, yearOfCentury =>
    if 0 ≤ year ∧ century.getD (year / 100) = year / 100 ∧
        yearOfCentury.getD (year % 100) = year % 100 then .ok (some year)
    else .error .impossible
  | none, some century, some yearOfCentury => .ok (some (century * 100 + yearOfCentury))
  | none, none, some yearOfCentury =>
    .ok (some (yearOfCentury + if yearOfCentury < 70 then 2000 else 1900))
  | none, some _, none => .error .unknown

/-- Whether a field is absent or has a value. -/
def allows {α : Type} [DecidableEq α] (field : Option α) (value : α) : Bool :=
  match field with
  | none => true
  | some known => known = value

/-- Whether the fields of a year allow one. A year before the year zero has no century. -/
def allowsYear (year century yearOfCentury : Option Int) (value : Int) : Bool :=
  allows year value &&
    if 0 ≤ value then allows century (value / 100) && allows yearOfCentury (value % 100)
    else century.isNone && yearOfCentury.isNone

/-- Whether the year, the month and the day allow a date. -/
def allowsMonthDay (fields : Fields) (date : Date) : Bool :=
  allowsYear fields.year fields.century fields.yearOfCentury date.year &&
    allows fields.month date.monthDay.1 && allows fields.day date.monthDay.2

/-- Whether the week of a year and the day of the week allow a date. -/
def allowsIsoWeek (fields : Fields) (date : Date) : Bool :=
  allowsYear fields.isoYear fields.isoCentury fields.isoYearOfCentury date.isoWeek.1 &&
    allows fields.isoWeek date.isoWeek.2 && allows fields.weekday date.weekday

/-- Whether the day of the year and the counts of weeks allow a date. -/
def allowsOrdinal (fields : Fields) (date : Date) : Bool :=
  allows fields.ordinal date.ordinal && allows fields.weekFromSunday (date.weekFrom 6) &&
    allows fields.weekFromMonday (date.weekFrom 0)

/-- The quarter of a date. -/
def quarterOf (date : Date) : Nat :=
  (date.monthDay.1 + 2) / 3

/-- Whether all fields allow a date. -/
def allowsDate (fields : Fields) (date : Date) : Bool :=
  fields.allowsMonthDay date && fields.allowsIsoWeek date && fields.allowsOrdinal date &&
    allows fields.quarter (quarterOf date)

/-- The date that the first sufficient fields name, if there are such fields: the day of a month,
the day of a year, or the day of a week in one of the ways to count weeks. -/
def namedDate? (fields : Fields) (year isoYear : Option Int) : Option (Option Date) :=
  match year, fields.month, fields.day with
  | some year, some month, some day => some (Date.ofMonthDay? year month day)
  | _, _, _ =>
    match year, fields.ordinal with
    | some year, some ordinal => some (Date.ofOrdinal? year ordinal)
    | _, _ =>
      match year, fields.weekFromSunday, fields.weekday with
      | some year, some week, some weekday => some (Date.ofWeekFrom? year week weekday 6)
      | _, _, _ =>
        match year, fields.weekFromMonday, fields.weekday with
        | some year, some week, some weekday => some (Date.ofWeekFrom? year week weekday 0)
        | _, _, _ =>
          match isoYear, fields.isoWeek, fields.weekday with
          | some isoYear, some week, some weekday => some (Date.ofIsoWeek? isoYear week weekday)
          | _, _, _ => none

/-- The date that the fields make. -/
def date (fields : Fields) : Except Shortcoming Date := do
  let year ← resolveYear fields.year fields.century fields.yearOfCentury
  let isoYear ← resolveYear fields.isoYear fields.isoCentury fields.isoYearOfCentury
  match fields.namedDate? year isoYear with
  | none => .error .unknown
  | some none => .error .impossible
  | some (some date) => if fields.allowsDate date then .ok date else .error .impossible

/-- The time that the fields make. Seconds may be left out, unless there is a fraction of one. -/
def time (fields : Fields) : Except Shortcoming Time :=
  match fields.half, fields.hourOfHalf, fields.minute with
  | some half, some hourOfHalf, some minute =>
    if fields.nanosecond.isSome ∧ fields.second.isNone then .error .unknown
    else .ok ⟨half * 12 + hourOfHalf, minute, fields.second.getD 0⟩
  | _, _, _ => .error .unknown

/-- The fields together with those that a count of seconds stands for. A leap second is counted
with the second before or after it. -/
def fillFrom (fields : Fields) (seconds : Int) : Option Fields := do
  let isLeapSecond := fields.second = some 60
  if isLeapSecond ∧ seconds % 60 ≠ 59 ∧ seconds % 60 ≠ 0 then none
  else
    let seconds := if isLeapSecond ∧ seconds % 60 = 0 then seconds - 1 else seconds
    let date := Date.ofDayNumber (seconds / secondsOfDay + epochDay)
    let inDay := (seconds % secondsOfDay).toNat
    let fields ← if isLeapSecond then some fields else fields.set .second (inDay % 60 : Nat)
    let fields ← fields.set .year date.year
    let fields ← fields.set .dayOfYear date.ordinal
    let fields ← fields.setHour (inDay / 3600)
    fields.set .minute (inDay / 60 % 60 : Nat)

/-- The first second of the calendar and the one after its last. -/
def secondBounds : Int × Int :=
  ((Date.dayNumber ⟨firstYear, 1⟩ - epochDay) * secondsOfDay,
    (Date.dayNumber ⟨lastYear, 365⟩ + 1 - epochDay) * secondsOfDay)

/-- Whether a count of seconds makes a date and a time with the other fields, where these make no
date or no time. -/
def timestampHolds (fields : Fields) (offset : Int) : Bool :=
  match fields.timestamp with
  | none => false
  | some timestamp =>
    let isImpossible {α : Type} : Except Shortcoming α → Bool
      | .error .impossible => true
      | _ => false
    let seconds := timestamp + offset
    if isImpossible fields.date || isImpossible fields.time then false
    else if seconds < secondBounds.1 ∨ secondBounds.2 ≤ seconds then false
    else
      match fields.fillFrom seconds with
      | some filled => filled.date.toBool && filled.time.toBool
      | none => false

/-- Whether the fields make a date, a time, or both by a count of seconds. -/
def makesMoment (fields : Fields) : Bool :=
  fields.date.toBool || fields.time.toBool || fields.timestampHolds 0 ||
    match fields.offset with
    | some offset =>
      decide (-secondsOfDay < offset ∧ offset < secondsOfDay) && fields.timestampHolds offset
    | none => false

end Fields

/-- Whether a text is a date or a time in a layout. -/
def isMomentIn (layout : String) (text : List Char) : Bool :=
  match Layout.read layout with
  | none => false
  | some items =>
    match Fields.read items text with
    | some fields => fields.makesMoment
    | none => false

/-- Whether a text is a date, or a date and a time of it, in a layout. -/
def isDateIn (layout : String) (timed : Bool) (text : List Char) : Bool :=
  match Layout.read layout with
  | none => false
  | some items =>
    match Fields.read items text with
    | some fields => fields.date.toBool && (!timed || fields.time.toBool)
    | none => false

/-- Whether a text is an internet date with a time and a distance from universal time. -/
def isInternetDate (text : List Char) : Bool :=
  match Fields.readInternet text with
  | some fields => fields.date.toBool && fields.time.toBool
  | none => false

/-- Whether a text is a date or a time in a given layout, or in one of the common ones. -/
def isMoment (layout : Option String) (text : List Char) : Bool :=
  match layout with
  | some layout => isMomentIn layout text
  | none =>
    isInternetDate text || isDateIn "%Y-%m-%d %H:%M:%S" true text ||
      isDateIn "%Y-%m-%dT%H:%M:%S" true text || isDateIn "%Y-%m-%d" false text

end Scrutiny.Calendar
