import Scrutiny.Text.WhiteSpace

/-! # Layouts of dates and times

A layout says item by item how a date or a time is written. It is given as a text in which a
percent sign and a letter stand for an item, white space for any white space, and everything else
for itself.
-/

namespace Scrutiny.Calendar

/-- What a number in a layout counts. -/
inductive Quantity where
  | year | century | yearOfCentury
  | isoYear | isoCentury | isoYearOfCentury
  | quarter | month | day | dayOfYear
  | weekFromSunday | weekFromMonday | isoWeek
  | weekdayFromSunday | weekdayFromMonday
  | hour | hourOfHalf | minute | second | nanosecond
  | timestamp
  deriving Repr, DecidableEq

/-- An item of a layout. -/
inductive Item where
  | literal (chars : List Char)
  | space
  | number (quantity : Quantity)
  /-- The name of a month, abbreviated or, if `long`, also in full. -/
  | monthName (long : Bool)
  | weekdayName (long : Bool)
  /-- Before or after noon. -/
  | halfOfDay
  /-- A point and a fraction of a second, if there is a point; all digits or exactly so many. -/
  | fraction (digits : Option Nat)
  /-- So many digits of a fraction of a second. -/
  | digits (count : Nat)
  | zoneName
  /-- A distance from universal time; whether its minutes may be left out. -/
  | offset (lenient : Bool)
  /-- A date, a time and a distance from universal time. -/
  | complete
  deriving Repr, DecidableEq

namespace Layout

def colon : Item := .literal [':']

def hyphen : Item := .literal ['-']

def slash : Item := .literal ['/']

/-- The month, the day and the year of the century. -/
def shortDate : List Item :=
  [.number .month, slash, .number .day, slash, .number .yearOfCentury]

/-- The hour, the minute and the second. -/
def clock : List Item :=
  [.number .hour, colon, .number .minute, colon, .number .second]

/-- The items of a letter. -/
def letter? (c : Char) : Option (List Item) :=
  match c with
  | 'A' => some [.weekdayName true]
  | 'B' => some [.monthName true]
  | 'C' => some [.number .century]
  | 'D' => some shortDate
  | 'F' => some [.number .year, hyphen, .number .month, hyphen, .number .day]
  | 'G' => some [.number .isoYear]
  | 'H' => some [.number .hour]
  | 'I' => some [.number .hourOfHalf]
  | 'M' => some [.number .minute]
  | 'P' => some [.halfOfDay]
  | 'R' => some [.number .hour, colon, .number .minute]
  | 'S' => some [.number .second]
  | 'T' => some clock
  | 'U' => some [.number .weekFromSunday]
  | 'V' => some [.number .isoWeek]
  | 'W' => some [.number .weekFromMonday]
  | 'X' => some clock
  | 'Y' => some [.number .year]
  | 'Z' => some [.zoneName]
  | 'a' => some [.weekdayName false]
  | 'b' => some [.monthName false]
  | 'c' => some ([.weekdayName false, .space, .monthName false, .space, .number .day, .space] ++
      clock ++ [.space, .number .year])
  | 'd' => some [.number .day]
  | 'e' => some [.number .day]
  | 'f' => some [.number .nanosecond]
  | 'g' => some [.number .isoYearOfCentury]
  | 'h' => some [.monthName false]
  | 'j' => some [.number .dayOfYear]
  | 'k' => some [.number .hour]
  | 'l' => some [.number .hourOfHalf]
  | 'm' => some [.number .month]
  | 'n' => some [.space]
  | 'p' => some [.halfOfDay]
  | 'q' => some [.number .quarter]
  | 'r' => some [.number .hourOfHalf, colon, .number .minute, colon, .number .second, .space,
      .halfOfDay]
  | 's' => some [.number .timestamp]
  | 't' => some [.space]
  | 'u' => some [.number .weekdayFromMonday]
  | 'v' => some [.number .day, hyphen, .monthName false, hyphen, .number .year]
  | 'w' => some [.number .weekdayFromSunday]
  | 'x' => some shortDate
  | 'y' => some [.number .yearOfCentury]
  | 'z' => some [.offset false]
  | '+' => some [.complete]
  | '%' => some [.literal ['%']]
  | _ => none

/-- The items of a letter after a mark that chooses the padding of a number. Such a mark stands
before single numbers only. -/
def padded? (c : Char) : Option (List Item) :=
  match letter? c with
  | some [.number quantity] => some [.number quantity]
  | _ => none

/-- The items that begin after a percent sign, and what follows them. -/
def directive? : List Char → Option (List Item × List Char)
  | '-' :: c :: rest => (padded? c).map (·, rest)
  | '0' :: c :: rest => (padded? c).map (·, rest)
  | '_' :: c :: rest => (padded? c).map (·, rest)
  | '#' :: 'z' :: rest => some ([.offset true], rest)
  | ':' :: ':' :: ':' :: 'z' :: rest => some ([.offset false], rest)
  | ':' :: ':' :: 'z' :: rest => some ([.offset false], rest)
  | ':' :: 'z' :: rest => some ([.offset false], rest)
  | '.' :: 'f' :: rest => some ([.fraction none], rest)
  | '.' :: '3' :: 'f' :: rest => some ([.fraction (some 3)], rest)
  | '.' :: '6' :: 'f' :: rest => some ([.fraction (some 6)], rest)
  | '.' :: '9' :: 'f' :: rest => some ([.fraction (some 9)], rest)
  | '3' :: 'f' :: rest => some ([.digits 3], rest)
  | '6' :: 'f' :: rest => some ([.digits 6], rest)
  | '9' :: 'f' :: rest => some ([.digits 9], rest)
  | c :: rest => (letter? c).map (·, rest)
  | [] => none

/-- The items of a text, with a bound on the number of directives. -/
def readWithin : Nat → List Char → Option (List Item)
  | _, [] => some []
  | 0, _ => none
  | bound + 1, '%' :: rest =>
    match directive? rest with
    | some (items, rest) => (readWithin bound rest).map (items ++ ·)
    | none => none
  | bound + 1, c :: rest =>
    let item : Item := if Text.isWhiteSpace c then .space else .literal [c]
    (readWithin bound rest).map (item :: ·)

/-- The items of a text, unless a percent sign begins none. -/
def read (text : String) : Option (List Item) :=
  readWithin text.length text.toList

end Layout

end Scrutiny.Calendar
