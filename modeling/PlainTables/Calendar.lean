/-!
# Dates and times

Days of the proleptic Gregorian calendar, times of day down to the nanosecond, and points in time.
A time of day may lie in a leap second, which is the second after the 59th of a minute. Values of
each type are ordered chronologically.
-/

namespace PlainTables

def twoDigits (n : Nat) : List Char :=
  [Nat.digitChar (n / 10 % 10), Nat.digitChar (n % 10)]

namespace Calendar

def isLeapYear (year : Int) : Bool :=
  year % 4 = 0 && (year % 100 ≠ 0 || year % 400 = 0)

def daysInMonth (year : Int) (month : Nat) : Nat :=
  if month = 2 then if isLeapYear year then 29 else 28
  else if month = 4 ∨ month = 6 ∨ month = 9 ∨ month = 11 then 30
  else 31

def daysInYear (year : Int) : Nat :=
  if isLeapYear year then 366 else 365

/-- The days before a year, from the first one of the year one, which is a Monday. -/
def daysBefore (year : Int) : Int :=
  365 * (year - 1) + (year - 1) / 4 - (year - 1) / 100 + (year - 1) / 400

def isDay (year : Int) (month day : Nat) : Bool :=
  -262143 ≤ year && year ≤ 262142 && 1 ≤ month && month ≤ 12 &&
    1 ≤ day && day ≤ daysInMonth year month

def isTime (hour minute second nano : Nat) : Bool :=
  hour < 24 && minute < 60 && second < 60 &&
    (nano < 1000000000 || (second = 59 && nano < 2000000000))

end Calendar

structure Date where
  year : Int
  month : Nat
  day : Nat
  valid : Calendar.isDay year month day = true
deriving DecidableEq

/-- A time of day. Nanoseconds from `10 ^ 9` on lie in the leap second after second 59. -/
structure TimeOfDay where
  hour : Nat
  minute : Nat
  second : Nat
  nano : Nat
  valid : Calendar.isTime hour minute second nano = true
deriving DecidableEq

structure Timestamp where
  date : Date
  time : TimeOfDay
deriving DecidableEq

namespace Date

def ofParts? (year : Int) (month day : Nat) : Option Date :=
  if h : Calendar.isDay year month day then some ⟨year, month, day, h⟩ else none

/-- The day of the year, counted from one. -/
def ordinal (d : Date) : Nat :=
  (List.range (d.month - 1)).foldl (fun days m => days + Calendar.daysInMonth d.year (m + 1)) d.day

def ofOrdinal? (year : Int) (ordinal : Nat) : Option Date :=
  let rec go (month : Nat) (rest : Nat) : Nat → Option Date
    | 0 => none
    | months + 1 =>
      let length := Calendar.daysInMonth year month
      if rest ≤ length then ofParts? year month rest else go (month + 1) (rest - length) months
  go 1 ordinal 12

/-- The day with a given number in its year, also if it is one of the year before or after. -/
def ofOrdinalAround? (year ordinal : Int) : Option Date :=
  if ordinal ≤ 0 then ofOrdinal? (year - 1) (ordinal + Calendar.daysInYear (year - 1)).toNat
  else if Calendar.daysInYear year < ordinal then
    ofOrdinal? (year + 1) (ordinal - Calendar.daysInYear year).toNat
  else ofOrdinal? year ordinal.toNat

/-- The days from the first one of the year one. -/
def dayNumber (d : Date) : Int :=
  Calendar.daysBefore d.year + d.ordinal - 1

def ofDayNumber? (n : Int) : Option Date :=
  let guess := n / 146097 * 400 + n % 146097 / 365 + 1
  let year := if n < Calendar.daysBefore guess then guess - 1 else guess
  ofOrdinal? year (n - Calendar.daysBefore year + 1).toNat

/-- The day of the week, Monday being zero. -/
def weekday (d : Date) : Nat :=
  (d.dayNumber % 7).toNat

/-- The week of the year, where weeks start on a given day of the week and the days before the first such day
are in week zero. -/
def week (start : Nat) (d : Date) : Nat :=
  (d.ordinal + 6 - (d.weekday + 7 - start) % 7) / 7

def ofWeek? (start : Nat) (year : Int) (week weekday : Nat) : Option Date :=
  let first : Nat := (start + 7 - (Calendar.daysBefore year % 7).toNat) % 7 + 1
  let ordinal : Int := first + (week - 1) * 7 + ((weekday + 7 - start) % 7 : Nat)
  if ordinal ≤ 0 then none else ofOrdinal? year ordinal.toNat

/-- The year of the Thursday next to the day, Monday being the first day of the week, and the number of the week
in this year. -/
def isoWeek (d : Date) : Int × Nat :=
  let thursday : Int := d.ordinal + 3 - d.weekday
  if thursday ≤ 0 then (d.year - 1, ((thursday + Calendar.daysInYear (d.year - 1) + 6) / 7).toNat)
  else if Calendar.daysInYear d.year < thursday then (d.year + 1, 1)
  else (d.year, ((thursday + 6) / 7).toNat)

/-- The day of a week of an ISO year. The fourth of January is in the first week. -/
def ofIsoWeek? (year : Int) (week weekday : Nat) : Option Date :=
  let fourth : Int := (Calendar.daysBefore year + 3) % 7
  ofOrdinalAround? year (4 - fourth + (week - 1) * 7 + weekday)

def compare (a b : Date) : Ordering :=
  (Ord.compare a.year b.year).then ((Ord.compare a.month b.month).then (Ord.compare a.day b.day))

/-- A year: four digits, and a sign outside the years 0 to 9999. -/
def yearText (year : Int) : List Char :=
  let ds := Nat.toDigits 10 year.natAbs
  let padded := List.replicate (4 - ds.length) '0' ++ ds
  if year < 0 then '-' :: padded else if 9999 < year then '+' :: padded else padded

def text (d : Date) : List Char :=
  yearText d.year ++ '-' :: twoDigits d.month ++ '-' :: twoDigits d.day

end Date

namespace TimeOfDay

def ofParts? (hour minute second nano : Nat) : Option TimeOfDay :=
  if h : Calendar.isTime hour minute second nano then some ⟨hour, minute, second, nano, h⟩ else none

def compare (a b : TimeOfDay) : Ordering :=
  (Ord.compare a.hour b.hour).then <| (Ord.compare a.minute b.minute).then <|
    (Ord.compare a.second b.second).then (Ord.compare a.nano b.nano)

/-- The text `hour:minute:second`; a leap second is second 60. -/
def text (t : TimeOfDay) : List Char :=
  twoDigits t.hour ++ ':' :: twoDigits t.minute ++
    ':' :: twoDigits (t.second + t.nano / 1000000000)

def paddedTo (size n : Nat) : List Char :=
  let ds := Nat.toDigits 10 n
  List.replicate (size - ds.length) '0' ++ ds

/-- The fraction of the second in three, six or nine places; nothing if it is zero. -/
def fractionText (t : TimeOfDay) : List Char :=
  let n := t.nano % 1000000000
  if n = 0 then []
  else if n % 1000000 = 0 then '.' :: paddedTo 3 (n / 1000000)
  else if n % 1000 = 0 then '.' :: paddedTo 6 (n / 1000)
  else '.' :: paddedTo 9 n

def fullText (t : TimeOfDay) : List Char :=
  t.text ++ t.fractionText

end TimeOfDay

namespace Timestamp

def compare (a b : Timestamp) : Ordering :=
  (a.date.compare b.date).then (a.time.compare b.time)

/-- The seconds since 1970 began, in which a leap second is that before it. -/
def unixSeconds (t : Timestamp) : Int :=
  (t.date.dayNumber - 719162) * 86400 + (t.time.hour * 3600 + t.time.minute * 60 + t.time.second : Nat)

def ofUnixSeconds? (n : Int) : Option Timestamp := do
  let date ← Date.ofDayNumber? (n / 86400 + 719162)
  let second := (n % 86400).toNat
  let time ← TimeOfDay.ofParts? (second / 3600) (second / 60 % 60) (second % 60) 0
  return ⟨date, time⟩

def text (t : Timestamp) : List Char :=
  t.date.text ++ ' ' :: t.time.text

def fullText (t : Timestamp) : List Char :=
  t.date.text ++ 'T' :: t.time.fullText

end Timestamp

end PlainTables
