import PlainTables.Calendar.Parts
import PlainTables.Text.Characters

/-!
# Patterns for dates and times

A pattern is a text in which `%` and a letter stand for a part of a date or time. Reading a text with a pattern
collects these parts, and a date, a time of day or a timestamp is put together from them.
-/

namespace PlainTables.Calendar

inductive Item where
  | literal (c : Char)
  | blanks
  | number (part : Part)
  | monthName (long : Bool)
  | weekdayName (long : Bool)
  | halfDay
  /-- A point and the digits of a fraction, or nothing of them. -/
  | fraction (places : Option Nat)
  | fractionDigits (places : Nat)
  /-- The `T` or blank between a date and a time of day. -/
  | separator
  | zoneName
  /-- The offset of a time zone, for which there may be a `Z`, and of which the minutes may be left out. -/
  | zoneOffset (zulu short : Bool)
  /-- `UTC`, or the offset of a time zone. -/
  | utcOrOffset
  | invalid
deriving DecidableEq

namespace Item

def clock (first : Part) : List Item :=
  [number first, literal ':', number .minute, literal ':', number .second]

def slashed : List Item :=
  [number .month, literal '/', number .day, literal '/', number .yearOfCentury]

/-- A date and time of day as on the internet, with blanks before any hyphen or colon. -/
def internet : List Item :=
  [number .year, blanks, literal '-', number .month, blanks, literal '-', number .day, separator,
   number .hour, blanks, literal ':', number .minute, blanks, literal ':', number .second,
   fraction none, blanks, utcOrOffset]

def ofLetter : Char → List Item
  | 'Y' => [number .year]
  | 'C' => [number .century]
  | 'y' => [number .yearOfCentury]
  | 'G' => [number .isoYear]
  | 'g' => [number .isoYearOfCentury]
  | 'q' => [number .quarter]
  | 'm' => [number .month]
  | 'b' | 'h' => [monthName false]
  | 'B' => [monthName true]
  | 'd' | 'e' => [number .day]
  | 'j' => [number .dayOfYear]
  | 'U' => [number .weekFromSunday]
  | 'W' => [number .weekFromMonday]
  | 'V' => [number .isoWeek]
  | 'w' => [number .daysFromSunday]
  | 'u' => [number .daysFromMonday]
  | 'a' => [weekdayName false]
  | 'A' => [weekdayName true]
  | 'H' | 'k' => [number .hour]
  | 'I' | 'l' => [number .hourOfHalf]
  | 'p' | 'P' => [halfDay]
  | 'M' => [number .minute]
  | 'S' => [number .second]
  | 'f' => [number .nano]
  | 's' => [number .unixSeconds]
  | 'Z' => [zoneName]
  | 'z' => [zoneOffset false false]
  | 'R' => [number .hour, literal ':', number .minute]
  | 'T' | 'X' => clock .hour
  | 'r' => clock .hourOfHalf ++ [blanks, halfDay]
  | 'F' => [number .year, literal '-', number .month, literal '-', number .day]
  | 'D' | 'x' => slashed
  | 'v' => [number .day, literal '-', monthName false, literal '-', number .year]
  | 'c' => [weekdayName false, blanks, monthName false, blanks, number .day, blanks] ++
      clock .hour ++ [blanks, number .year]
  | '+' => internet
  | 'n' | 't' => [blanks]
  | '%' => [literal '%']
  | _ => [invalid]

/-- The item of a single number may be padded in other ways. They make no difference in reading. -/
def padded : List Item → List Item
  | [number part] => [number part]
  | _ => [invalid]

def ofPattern : List Char → List Item
  | '%' :: '.' :: 'f' :: s => fraction none :: ofPattern s
  | '%' :: '.' :: '3' :: 'f' :: s => fraction (some 3) :: ofPattern s
  | '%' :: '.' :: '6' :: 'f' :: s => fraction (some 6) :: ofPattern s
  | '%' :: '.' :: '9' :: 'f' :: s => fraction (some 9) :: ofPattern s
  | '%' :: '3' :: 'f' :: s => fractionDigits 3 :: ofPattern s
  | '%' :: '6' :: 'f' :: s => fractionDigits 6 :: ofPattern s
  | '%' :: '9' :: 'f' :: s => fractionDigits 9 :: ofPattern s
  | '%' :: ':' :: 'z' :: s => zoneOffset false false :: ofPattern s
  | '%' :: ':' :: ':' :: 'z' :: s => zoneOffset false false :: ofPattern s
  | '%' :: ':' :: ':' :: ':' :: 'z' :: s => zoneOffset false false :: ofPattern s
  | '%' :: '#' :: 'z' :: s => zoneOffset true true :: ofPattern s
  | '%' :: '-' :: c :: s => padded (ofLetter c) ++ ofPattern s
  | '%' :: '0' :: c :: s => padded (ofLetter c) ++ ofPattern s
  | '%' :: '_' :: c :: s => padded (ofLetter c) ++ ofPattern s
  | ['%'] => [invalid]
  | '%' :: c :: s => ofLetter c ++ ofPattern s
  | c :: s => (if Text.isBlank c then blanks else literal c) :: ofPattern s
  | [] => []

end Item

/-- Reads at most `width` digits, and at least one. -/
def readDigits (width : Nat) (s : List Char) : Option (Nat × List Char) :=
  let ds := (s.take width).takeWhile Char.isDigit
  if ds.isEmpty then none else some (Nat.ofDigitChars 10 ds 0, s.drop ds.length)

/-- Reads the number of a part after blanks. With a sign there may be any number of digits. -/
def readNumber (part : Part) (s : List Char) : Option (Int × List Char) :=
  match part.isSigned, Text.trimLeft s with
  | true, '-' :: r => (readDigits r.length r).map fun (n, r) => (-(n : Int), r)
  | true, '+' :: r => (readDigits r.length r).map fun (n, r) => ((n : Int), r)
  | _, r => (readDigits part.width r).map fun (n, r) => ((n : Int), r)

def dropWord? (word s : List Char) : Option (List Char) :=
  if (s.take word.length).map Char.toLower = word then some (s.drop word.length) else none

/-- The months: the short name, and what the long one adds. -/
def monthNames : List (String × String) :=
  [("jan", "uary"), ("feb", "ruary"), ("mar", "ch"), ("apr", "il"), ("may", ""), ("jun", "e"),
   ("jul", "y"), ("aug", "ust"), ("sep", "tember"), ("oct", "ober"), ("nov", "ember"),
   ("dec", "ember")]

/-- The days of the week, in the same way. -/
def weekdayNames : List (String × String) :=
  [("mon", "day"), ("tue", "sday"), ("wed", "nesday"), ("thu", "rsday"), ("fri", "day"),
   ("sat", "urday"), ("sun", "day")]

/-- Reads one of several names, of which the place is returned. -/
def readName (names : List (String × String)) (long : Bool) (s : List Char) : Option (Nat × List Char) :=
  names.zipIdx.findSome? fun ((short, more), i) =>
    (dropWord? short.toList s).map fun r =>
      (i, if long then (dropWord? more.toList r).getD r else r)

/-- Reads the digits of a fraction as nanoseconds. Without a number of places any number of digits is
read, and those after the ninth are dropped. -/
def readFraction (places : Option Nat) (s : List Char) : Option (Nat × List Char) :=
  let ds := match places with
    | some n => (s.take n).takeWhile Char.isDigit
    | none => s.takeWhile Char.isDigit
  if ds.isEmpty || places.any (· ≠ ds.length) then none
  else
    let kept := ds.take 9
    some (Nat.ofDigitChars 10 kept 0 * Nat.pow 10 (9 - kept.length), s.drop ds.length)

def readTwoDigits : List Char → Option (Nat × List Char)
  | a :: b :: s => if a.isDigit && b.isDigit then some (Nat.ofDigitChars 10 [a, b] 0, s) else none
  | _ => none

/-- Reads hours and minutes, in seconds. -/
def readShift (short : Bool) (s : List Char) : Option (Nat × List Char) := do
  let (hours, s) ← readTwoDigits s
  let s := s.dropWhile fun c => c = ':' || Text.isBlank c
  if short && s.isEmpty then return (hours * 3600, s)
  let (minutes, s) ← readTwoDigits s
  if minutes < 60 then return (hours * 3600 + minutes * 60, s) else none

/-- Reads the offset of a time zone after blanks, in seconds. -/
def readOffset (zulu short : Bool) (s : List Char) : Option (Int × List Char) :=
  match Text.trimLeft s with
  | '+' :: s => (readShift short s).map fun (n, s) => ((n : Int), s)
  | '-' :: s | '\u2212' :: s => (readShift short s).map fun (n, s) => (-(n : Int), s)
  | 'Z' :: s | 'z' :: s => if zulu then some (0, s) else none
  | _ => none

/-- Reads one item, and returns the parts known after it and the rest of the text. -/
def Item.read (item : Item) (p : Parts) (s : List Char) : Option (Parts × List Char) :=
  match item with
  | .literal c => match s with
    | d :: r => if c = d then some (p, r) else none
    | [] => none
  | .blanks => some (p, Text.trimLeft s)
  | .number part =>
    (readNumber part s).bind fun (n, r) => (p.set part n).map fun p => (p, r)
  | .monthName long =>
    (readName monthNames long s).bind fun (n, r) => (p.set .month (n + 1)).map fun p => (p, r)
  | .weekdayName long =>
    (readName weekdayNames long s).bind fun (n, r) => (p.set .daysFromMonday (n + 1)).map fun p => (p, r)
  | .halfDay =>
    let half := if (dropWord? ['a', 'm'] s).isSome then some 0
      else if (dropWord? ['p', 'm'] s).isSome then some 1 else none
    half.bind fun n => (settle p.time.half n).map fun v => ({ p with time.half := v }, s.drop 2)
  | .fraction places => match s with
    | '.' :: r => (readFraction places r).bind fun (n, r) => (p.set .nano n).map fun p => (p, r)
    | _ => some (p, s)
  | .fractionDigits places =>
    (readFraction (some places) s).bind fun (n, r) => (p.set .nano n).map fun p => (p, r)
  | .separator => match s with
    | c :: r => if c = 'T' || c = 't' || c = ' ' then some (p, r) else none
    | [] => none
  | .zoneName => some (p, s.dropWhile fun c => !Text.isBlank c)
  | .zoneOffset zulu short => (readOffset zulu short s).bind enterOffset
  | .utcOrOffset => match dropWord? ['u', 't', 'c'] s with
    | some r => enterOffset (0, r)
    | none => (readOffset true false s).bind enterOffset
  | .invalid => none
where
  enterOffset : Int × List Char → Option (Parts × List Char)
    | (n, r) => (settle p.offset n).map fun v => ({ p with offset := v }, r)

def readItems : List Item → Parts → List Char → Option Parts
  | [], p, s => if s.isEmpty then some p else none
  | item :: items, p, s => (item.read p s).bind fun (p, r) => readItems items p r

def readParts (pattern s : List Char) : Option Parts :=
  readItems (Item.ofPattern pattern) {} s

end PlainTables.Calendar

namespace PlainTables

def Date.read? (pattern s : String) : Option Date :=
  (Calendar.readParts pattern.toList s.toList).bind fun p => p.date.toDate.toOption

def TimeOfDay.read? (pattern s : String) : Option TimeOfDay :=
  (Calendar.readParts pattern.toList s.toList).bind fun p => p.time.toTime.toOption

def Timestamp.read? (pattern s : String) : Option Timestamp :=
  (Calendar.readParts pattern.toList s.toList).bind fun p => p.toTimestamp.toOption

end PlainTables
