import Scrutiny.Calendar.Layout

/-! # Fields of dates and times

What a text says of a date and a time, field by field. A field that is said twice must be said
alike. Reading a text by a layout collects the fields and does not ask yet whether they make a date.
-/

namespace Scrutiny.Calendar

/-- The fields that have been read. -/
structure Fields where
  year : Option Int := none
  century : Option Int := none
  yearOfCentury : Option Int := none
  isoYear : Option Int := none
  isoCentury : Option Int := none
  isoYearOfCentury : Option Int := none
  quarter : Option Nat := none
  month : Option Nat := none
  day : Option Nat := none
  ordinal : Option Nat := none
  weekFromSunday : Option Nat := none
  weekFromMonday : Option Nat := none
  isoWeek : Option Nat := none
  /-- The day of the week, zero for Monday. -/
  weekday : Option Nat := none
  /-- Zero before noon and one after it. -/
  half : Option Nat := none
  hourOfHalf : Option Nat := none
  minute : Option Nat := none
  second : Option Nat := none
  nanosecond : Option Nat := none
  timestamp : Option Int := none
  /-- Seconds from universal time. -/
  offset : Option Int := none
  deriving Repr, DecidableEq

/-- A field with a new value, unless it has another one. -/
def agree {α : Type} [DecidableEq α] (old : Option α) (value : α) : Option (Option α) :=
  match old with
  | none => some (some value)
  | some known => if known = value then some old else none

namespace Fields

/-- A value within bounds, in a field. -/
def within (old : Option Nat) (least greatest value : Nat) : Option (Option Nat) :=
  if least ≤ value ∧ value ≤ greatest then agree old value else none

/-- A year, in a field. Years have 32 bits. -/
def withinYears (old : Option Int) (value : Int) : Option (Option Int) :=
  if -2147483648 ≤ value ∧ value ≤ 2147483647 then agree old value else none

/-- Set the hour: the half of the day and the hour of that half. -/
def setHour (fields : Fields) (hour : Nat) : Option Fields :=
  if hour < 24 then do
    let half ← agree fields.half (hour / 12)
    let hourOfHalf ← agree fields.hourOfHalf (hour % 12)
    some { fields with half, hourOfHalf }
  else none

/-- Set the day of the week. -/
def setWeekday (fields : Fields) (weekday : Nat) : Option Fields := do
  let weekday ← agree fields.weekday weekday
  some { fields with weekday }

/-- Set the month. -/
def setMonth (fields : Fields) (month : Nat) : Option Fields := do
  let month ← within fields.month 1 12 month
  some { fields with month }

/-- Set the fraction of the second. -/
def setNanosecond (fields : Fields) (nanosecond : Nat) : Option Fields := do
  let nanosecond ← within fields.nanosecond 0 999999999 nanosecond
  some { fields with nanosecond }

/-- Set the distance from universal time. -/
def setOffset (fields : Fields) (offset : Int) : Option Fields := do
  let offset ← agree fields.offset offset
  some { fields with offset }

/-- Set what a number counts. -/
def set (fields : Fields) (quantity : Quantity) (value : Int) : Option Fields :=
  let count := value.toNat
  match quantity with
  | .year => (withinYears fields.year value).map fun year => { fields with year }
  | .century => (agree fields.century value).map fun century => { fields with century }
  | .yearOfCentury =>
    (agree fields.yearOfCentury value).map fun yearOfCentury => { fields with yearOfCentury }
  | .isoYear => (withinYears fields.isoYear value).map fun isoYear => { fields with isoYear }
  | .isoCentury =>
    (agree fields.isoCentury value).map fun isoCentury => { fields with isoCentury }
  | .isoYearOfCentury =>
    (agree fields.isoYearOfCentury value).map fun isoYearOfCentury =>
      { fields with isoYearOfCentury }
  | .quarter => (within fields.quarter 1 4 count).map fun quarter => { fields with quarter }
  | .month => fields.setMonth count
  | .day => (within fields.day 1 31 count).map fun day => { fields with day }
  | .dayOfYear => (within fields.ordinal 1 366 count).map fun ordinal => { fields with ordinal }
  | .weekFromSunday =>
    (within fields.weekFromSunday 0 53 count).map fun weekFromSunday =>
      { fields with weekFromSunday }
  | .weekFromMonday =>
    (within fields.weekFromMonday 0 53 count).map fun weekFromMonday =>
      { fields with weekFromMonday }
  | .isoWeek => (within fields.isoWeek 1 53 count).map fun isoWeek => { fields with isoWeek }
  | .weekdayFromSunday => if count ≤ 6 then fields.setWeekday ((count + 6) % 7) else none
  | .weekdayFromMonday =>
    if 1 ≤ count ∧ count ≤ 7 then fields.setWeekday (count - 1) else none
  | .hour => fields.setHour count
  | .hourOfHalf =>
    if 1 ≤ count ∧ count ≤ 12 then
      (agree fields.hourOfHalf (count % 12)).map fun hourOfHalf => { fields with hourOfHalf }
    else none
  | .minute => (within fields.minute 0 59 count).map fun minute => { fields with minute }
  | .second => (within fields.second 0 60 count).map fun second => { fields with second }
  | .nanosecond => fields.setNanosecond count
  | .timestamp => (agree fields.timestamp value).map fun timestamp => { fields with timestamp }

end Fields

namespace Quantity

/-- The greatest number of digits, if it is bounded. -/
def width? : Quantity → Option Nat
  | .year => some 4
  | .isoYear => some 4
  | .quarter => some 1
  | .weekdayFromSunday => some 1
  | .weekdayFromMonday => some 1
  | .dayOfYear => some 3
  | .nanosecond => some 9
  | .timestamp => none
  | _ => some 2

/-- Whether a sign may precede the digits, which are then as many as there are. -/
def isSigned : Quantity → Bool
  | .year => true
  | .isoYear => true
  | _ => false

end Quantity

/-- The largest number that can be read. -/
def maxNumber : Nat := 9223372036854775807

/-- The number that a text begins with, of at least and at most so many digits. -/
def number? (least : Nat) (most : Option Nat) (cs : List Char) : Option (Nat × List Char) :=
  let all := cs.takeWhile Char.isDigit
  let digits := match most with
    | some most => all.take most
    | none => all
  let value := Nat.ofDigitChars 10 digits 0
  if least ≤ digits.length ∧ value ≤ maxNumber then some (value, cs.drop digits.length) else none

/-- The number of a quantity, after white space. -/
def quantity? (quantity : Quantity) (cs : List Char) : Option (Int × List Char) :=
  let plain := (number? 1 quantity.width? (Text.trimStart cs)).map fun (value, rest) =>
    ((value : Int), rest)
  if quantity.isSigned then
    match Text.trimStart cs with
    | '-' :: rest => (number? 1 none rest).map fun (value, rest) => (-(value : Int), rest)
    | '+' :: rest => (number? 1 none rest).map fun (value, rest) => ((value : Int), rest)
    | _ => plain
  else plain

/-- The names of the months: what all spellings begin with, and the rest of the full name. -/
def monthNames : List (String × String) := [
  ("jan", "uary"), ("feb", "ruary"), ("mar", "ch"), ("apr", "il"), ("may", ""), ("jun", "e"),
  ("jul", "y"), ("aug", "ust"), ("sep", "tember"), ("oct", "ober"), ("nov", "ember"),
  ("dec", "ember")]

/-- The names of the days of the week, as for the months. -/
def weekdayNames : List (String × String) := [
  ("mon", "day"), ("tue", "sday"), ("wed", "nesday"), ("thu", "rsday"), ("fri", "day"),
  ("sat", "urday"), ("sun", "day")]

/-- A text without a name at its start, in whatever case it is written. -/
def dropName? (name : String) (cs : List Char) : Option (List Char) :=
  if (cs.take name.length).map Char.toLower = name.toList then some (cs.drop name.length) else none

/-- The position of the name that a text begins with. -/
def name? (long : Bool) (cs : List Char) : Nat → List (String × String) → Option (Nat × List Char)
  | _, [] => none
  | position, (short, ending) :: names =>
    match dropName? short cs with
    | some rest => some (position, if long then (dropName? ending rest).getD rest else rest)
    | none => name? long cs (position + 1) names

/-- The digits of a fraction of a second as nanoseconds, where there are at least so many. Digits
beyond the ninth do not count. -/
def fraction? (cs : List Char) : Option (Nat × List Char) :=
  match number? 1 (some 9) cs with
  | some (value, rest) =>
    some (value * Nat.pow 10 (9 - (cs.length - rest.length)), rest.dropWhile Char.isDigit)
  | none => none

/-- Exactly so many digits of a fraction of a second as nanoseconds. -/
def digits? (count : Nat) (cs : List Char) : Option (Nat × List Char) :=
  (number? count (some count) cs).map fun (value, rest) => (value * Nat.pow 10 (9 - count), rest)

/-- What may stand between the hours and the minutes of a distance from universal time. -/
inductive Separator where
  /-- Exactly one colon. -/
  | colon
  /-- Any colons and white space. -/
  | loose
  deriving DecidableEq

/-- A text without the separator at its start. -/
def Separator.drop? : Separator → List Char → Option (List Char)
  | .colon, ':' :: rest => some rest
  | .colon, _ => none
  | .loose, cs => some (cs.dropWhile fun c => c == ':' || Text.isWhiteSpace c)

/-- The sign that a text begins with, true for minus. -/
def sign? : List Char → Option (Bool × List Char)
  | '+' :: rest => some (false, rest)
  | '-' :: rest => some (true, rest)
  | '\u2212' :: rest => some (true, rest)
  | _ => none

/-- The minutes of a distance from universal time. Where they may be left out, nothing follows
then. -/
def minutes? (optional : Bool) (cs : List Char) : Option (Nat × List Char) :=
  match cs with
  | [] => if optional then some (0, []) else none
  | _ =>
    match number? 2 (some 2) cs with
    | some (value, rest) => if value < 60 then some (value, rest) else none
    | none => none

/-- A distance from universal time in seconds. -/
def offset? (separator : Separator) (zulu optional : Bool) (cs : List Char) :
    Option (Int × List Char) :=
  match zulu && (cs.head?.map Char.toLower == some 'z') with
  | true => some (0, cs.drop 1)
  | false => do
    let (negative, cs) ← sign? cs
    let (hours, cs) ← number? 2 (some 2) cs
    let cs ← separator.drop? cs
    let (minutes, cs) ← minutes? optional cs
    let seconds : Int := hours * 3600 + minutes * 60
    some (if negative then -seconds else seconds, cs)

namespace Fields

/-- Read a fraction of a second after a point, if there is a point. -/
def readFraction (fields : Fields) (digits : Option Nat) (cs : List Char) :
    Option (Fields × List Char) :=
  match cs with
  | '.' :: rest => do
    let (value, rest) ← match digits with
      | some count => digits? count rest
      | none => fraction? rest
    let fields ← fields.setNanosecond value
    some (fields, rest)
  | cs => some (fields, cs)

/-- Read an item that has no items of its own. -/
def readSimple (fields : Fields) (item : Item) (cs : List Char) : Option (Fields × List Char) :=
  match item with
  | .literal chars => if chars.isPrefixOf cs then some (fields, cs.drop chars.length) else none
  | .space => some (fields, Text.trimStart cs)
  | .number quantity => do
    let (value, rest) ← quantity? quantity cs
    let fields ← fields.set quantity value
    some (fields, rest)
  | .monthName long => do
    let (position, rest) ← name? long cs 0 monthNames
    let fields ← fields.setMonth (position + 1)
    some (fields, rest)
  | .weekdayName long => do
    let (position, rest) ← name? long cs 0 weekdayNames
    let fields ← fields.setWeekday position
    some (fields, rest)
  | .halfOfDay => do
    let (position, rest) ← name? false cs 0 [("am", ""), ("pm", "")]
    let half ← agree fields.half position
    some ({ fields with half }, rest)
  | .fraction digits => fields.readFraction digits cs
  | .digits count => do
    let (value, rest) ← digits? count cs
    let fields ← fields.setNanosecond value
    some (fields, rest)
  | .zoneName => some (fields, cs.dropWhile fun c => !Text.isWhiteSpace c)
  | .offset lenient => do
    let (offset, rest) ← offset? .loose lenient lenient (Text.trimStart cs)
    let fields ← fields.setOffset offset
    some (fields, rest)
  | .complete => none

/-- Read items without items of their own. -/
def readSimples (fields : Fields) (cs : List Char) : List Item → Option (Fields × List Char)
  | [] => some (fields, cs)
  | item :: items =>
    match fields.readSimple item cs with
    | some (fields, rest) => readSimples fields rest items
    | none => none

/-- Drop the letter or the space between a date and a time. -/
def dropDivider? : List Char → Option (List Char)
  | c :: rest => if c = 't' ∨ c = 'T' ∨ c = ' ' then some rest else none
  | [] => none

/-- Read a date, a time and a distance from universal time, with white space in many places. -/
def readComplete (fields : Fields) (cs : List Char) : Option (Fields × List Char) := do
  let (fields, cs) ← fields.readSimples cs
    [.number .year, .space, Layout.hyphen, .number .month, .space, Layout.hyphen, .number .day]
  let cs ← dropDivider? cs
  let (fields, cs) ← fields.readSimples cs
    [.number .hour, .space, Layout.colon, .number .minute, .space, Layout.colon, .number .second,
      .fraction none, .space]
  let (offset, cs) ← match dropName? "utc" cs with
    | some rest => some (0, rest)
    | none => offset? .loose true false cs
  let fields ← fields.setOffset offset
  some (fields, cs)

/-- Read an item. -/
def readItem (fields : Fields) (item : Item) (cs : List Char) : Option (Fields × List Char) :=
  match item with
  | .complete => fields.readComplete cs
  | item => fields.readSimple item cs

/-- Read items to the end of a text. -/
def readItems (fields : Fields) (cs : List Char) : List Item → Option Fields
  | [] => if cs.isEmpty then some fields else none
  | item :: items =>
    match fields.readItem item cs with
    | some (fields, rest) => readItems fields rest items
    | none => none

/-- The fields of a text that is written by a layout. -/
def read (layout : List Item) (text : List Char) : Option Fields :=
  readItems {} text layout

/-- The greatest distance from universal time in an internet date. -/
def maxOffset : Int := 86340

/-- Read one number of exactly so many digits. -/
def readExactly (fields : Fields) (quantity : Quantity) (width : Nat) (cs : List Char) :
    Option (Fields × List Char) := do
  let (value, rest) ← number? width (some width) cs
  let fields ← fields.set quantity value
  some (fields, rest)

/-- Drop one character. -/
def dropChar? (c : Char) : List Char → Option (List Char)
  | d :: rest => if c = d then some rest else none
  | [] => none

/-- The fields of a text in the form of internet dates, where all widths are fixed. -/
def readInternet (cs : List Char) : Option Fields := do
  let (fields, cs) ← readExactly {} .year 4 cs
  let cs ← dropChar? '-' cs
  let (fields, cs) ← fields.readExactly .month 2 cs
  let cs ← dropChar? '-' cs
  let (fields, cs) ← fields.readExactly .day 2 cs
  let cs ← dropDivider? cs
  let (fields, cs) ← fields.readExactly .hour 2 cs
  let cs ← dropChar? ':' cs
  let (fields, cs) ← fields.readExactly .minute 2 cs
  let cs ← dropChar? ':' cs
  let (fields, cs) ← fields.readExactly .second 2 cs
  let (fields, cs) ← fields.readFraction none cs
  let (offset, cs) ← offset? .colon true false cs
  if cs.isEmpty ∧ -maxOffset ≤ offset ∧ offset ≤ maxOffset then fields.setOffset offset else none

end Fields

end Scrutiny.Calendar
