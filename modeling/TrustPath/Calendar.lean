/-!
Gregorian dates with a time of day, from 1970 to 9999 in UTC.
`DateTime.toSeconds` counts seconds since the start of 1970 and
`DateTime.ofSeconds?` turns a count back into fields; moments are compared field
by field.
-/

namespace TrustPath

namespace Calendar

/-- The leap years are those divisible by four, except centuries not divisible
by four hundred. -/
def isLeap (year : Nat) : Bool :=
  year % 4 = 0 && (year % 100 ≠ 0 || year % 400 = 0)

def yearLength (year : Nat) : Nat :=
  if isLeap year then 366 else 365

def monthLengths (year : Nat) : List Nat :=
  [31, if isLeap year then 29 else 28, 31, 30, 31, 30, 31, 31, 30, 31, 30, 31]

/-- The number of days of a month, counted from one; other months have none. -/
def monthLength (year month : Nat) : Nat :=
  if month = 0 then 0 else (monthLengths year).getD (month - 1) 0

def firstYear : Nat := 1970

def lastYear : Nat := 9999

/-- Days from the start of 1970 to the start of the year that many years
later. -/
def daysBeforeYear : (yearsLater : Nat) → Nat
  | 0 => 0
  | n + 1 => daysBeforeYear n + yearLength (firstYear + n)

/-- Days from the start of a year to the start of a month of it. -/
def daysBeforeMonth (year month : Nat) : Nat :=
  ((monthLengths year).take (month - 1)).foldr (· + ·) 0

/-- Finds the year in which a day lies, counting days from the start of `year`:
the year, and the day's number in it from zero. Nothing if the day lies more
than `span` years on. -/
def findYear? : (span year day : Nat) → Option (Nat × Nat)
  | 0, _, _ => none
  | span + 1, year, day =>
    if day < yearLength year then some (year, day)
    else findYear? span (year + 1) (day - yearLength year)

/-- Finds the month in which a day of a year lies, given the lengths of the
months from `month` on: the month, and the day of the month from one. -/
def findMonth (month : Nat) : List Nat → (day : Nat) → Nat × Nat
  | [], day => (month, day + 1)
  | length :: rest, day =>
    if day < length then (month, day + 1)
      else findMonth (month + 1) rest (day - length)

/-- Whether fields name a moment of a real day from 1970 to 9999. -/
def isMoment (year month day hour minute second : Nat) : Bool :=
  firstYear ≤ year && year ≤ lastYear && 1 ≤ month && month ≤ 12 && 1 ≤ day &&
    day ≤ monthLength year month && hour ≤ 23 && minute ≤ 59 && second ≤ 59

/-- Decimal digits, filled up with zeros on the left to `width`. -/
def padded (width n : Nat) : String :=
  let digits := (toString n).toList
  String.ofList (List.replicate (width - digits.length) '0' ++ digits)

end Calendar

open Calendar in
/-- A moment in UTC, to the second. -/
structure DateTime where
  year : Nat
  month : Nat
  day : Nat
  hour : Nat
  minute : Nat
  second : Nat
  isMoment : isMoment year month day hour minute second = true
deriving DecidableEq

namespace DateTime

open Calendar

def ofFields? (year month day hour minute second : Nat) : Option DateTime :=
  if h : Calendar.isMoment year month day hour minute second = true then
    some ⟨year, month, day, hour, minute, second, h⟩
  else none

/-- Seconds since the start of 1970. -/
def toSeconds (t : DateTime) : Nat :=
  let days := daysBeforeYear (t.year - firstYear) + daysBeforeMonth t.year
      t.month + (t.day - 1)
  86400 * days + 3600 * t.hour + 60 * t.minute + t.second

/-- The moment a number of seconds after the start of 1970, up to the end of
9999. -/
def ofSeconds? (seconds : Nat) : Option DateTime := do
  let (year, dayOfYear) ← findYear? (lastYear - firstYear + 1) firstYear
      (seconds / 86400)
  let (month, day) := findMonth 1 (monthLengths year) dayOfYear
  let second := seconds % 86400
  ofFields? year month day (second / 3600) (second / 60 % 60) (second % 60)

/-- The earlier moment is the one with the smaller value in the first field that
differs. -/
def cmp (a b : DateTime) : Ordering :=
  (compare a.year b.year).then <| (compare a.month b.month).then <|
    (compare a.day b.day).then <| (compare a.hour b.hour).then <|
    (compare a.minute b.minute).then (compare a.second b.second)

/-- Date and time as `YYYY-MM-DDTHH:MM:SSZ`. -/
def text (t : DateTime) : String :=
  padded 4 t.year ++ "-" ++ padded 2 t.month ++ "-" ++ padded 2 t.day ++ "T" ++
    padded 2 t.hour ++ ":" ++ padded 2 t.minute ++ ":" ++
    padded 2 t.second ++ "Z"

end DateTime

end TrustPath
