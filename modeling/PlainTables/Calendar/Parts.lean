import PlainTables.Calendar

/-!
# Parts of dates and times

What is known of a date or time, part by part. Parts that are known twice must not contradict each other, and
there may be more of them than a date, a time of day or a timestamp needs.
-/

namespace PlainTables.Calendar

inductive Part where
  | year | century | yearOfCentury
  | isoYear | isoYearOfCentury
  | quarter | month | day | dayOfYear
  | weekFromSunday | weekFromMonday | isoWeek
  /-- The day of the week, where Sunday is zero. -/
  | daysFromSunday
  /-- The day of the week, where Monday is one. -/
  | daysFromMonday
  | hour | hourOfHalf | minute | second | nano
  | unixSeconds
deriving DecidableEq

namespace Part

/-- How many digits a part has at most when it has no sign. -/
def width : Part → Nat
  | .year | .isoYear => 4
  | .quarter | .daysFromSunday | .daysFromMonday => 1
  | .dayOfYear => 3
  | .nano => 9
  | .unixSeconds => 18446744073709551615
  | _ => 2

def isSigned : Part → Bool
  | .year | .isoYear => true
  | _ => false

def bounds : Part → Int × Int
  | .year | .isoYear => (-2147483648, 2147483647)
  | .century | .yearOfCentury | .isoYearOfCentury => (0, 99)
  | .quarter => (1, 4)
  | .month => (1, 12)
  | .day => (1, 31)
  | .dayOfYear => (1, 366)
  | .weekFromSunday | .weekFromMonday => (0, 53)
  | .isoWeek => (1, 53)
  | .daysFromSunday => (0, 6)
  | .daysFromMonday => (1, 7)
  | .hour => (0, 23)
  | .hourOfHalf => (1, 12)
  | .minute => (0, 59)
  | .second => (0, 60)
  | .nano => (0, 999999999)
  | .unixSeconds => (-9223372036854775808, 9223372036854775807)

def admits (part : Part) (n : Int) : Bool :=
  part.bounds.1 ≤ n && n ≤ part.bounds.2

end Part

/-- Why parts do not make a date or time: some are missing, or no date or time has them all. -/
inductive PartsFault where
  | missing
  | contradiction
deriving DecidableEq

/-- What is known of a day. Monday is day zero of the week. -/
structure DateParts where
  year : Option Int := none
  century : Option Nat := none
  yearOfCentury : Option Nat := none
  isoYear : Option Int := none
  isoYearOfCentury : Option Nat := none
  quarter : Option Nat := none
  month : Option Nat := none
  day : Option Nat := none
  dayOfYear : Option Nat := none
  weekFromSunday : Option Nat := none
  weekFromMonday : Option Nat := none
  isoWeek : Option Nat := none
  weekday : Option Nat := none
deriving DecidableEq

/-- A year of which only the last two digits are known lies in 1970 to 2069. A year before the year zero has no
last digits. -/
def resolveYear : Option Int → Option Nat → Option Nat → Except PartsFault (Option Int)
  | year, none, none => .ok year
  | some year, century, rest =>
    if 0 ≤ year ∧ century.all (fun c => c = year / 100) ∧ rest.all (fun r => r = year % 100) then .ok (some year)
    else .error .contradiction
  | none, some century, some rest => .ok (some (100 * century + rest))
  | none, none, some rest => .ok (some (if rest < 70 then 2000 + rest else 1900 + rest))
  | none, some _, none => .error .missing

namespace DateParts

/-- The day that the parts name, if they are enough for one. There are several ways to name a day, and the first
one is taken for which all parts are there. -/
def named (p : DateParts) (year? isoYear? : Option Int) : Option (Option Date) :=
  let byMonth := do
    let year ← year?
    let month ← p.month
    let day ← p.day
    return Date.ofParts? year month day
  let byOrdinal := do
    let year ← year?
    let ordinal ← p.dayOfYear
    return Date.ofOrdinal? year ordinal
  let byWeek (start : Nat) (week? : Option Nat) := do
    let year ← year?
    let week ← week?
    let weekday ← p.weekday
    return Date.ofWeek? start year week weekday
  let byIsoWeek := do
    let year ← isoYear?
    let week ← p.isoWeek
    let weekday ← p.weekday
    return Date.ofIsoWeek? year week weekday
  byMonth <|> byOrdinal <|> byWeek 6 p.weekFromSunday <|> byWeek 0 p.weekFromMonday <|> byIsoWeek

def agreesOnYear (year : Int) (year? : Option Int) (century? rest? : Option Nat) : Bool :=
  year?.all (· = year) && century?.all (fun c => 0 ≤ year && c = year / 100) &&
    rest?.all (fun r => 0 ≤ year && r = year % 100)

def agreesWith (p : DateParts) (d : Date) : Bool :=
  agreesOnYear d.year p.year p.century p.yearOfCentury &&
    agreesOnYear d.isoWeek.1 p.isoYear none p.isoYearOfCentury &&
    p.quarter.all (· = (d.month + 2) / 3) && p.month.all (· = d.month) && p.day.all (· = d.day) &&
    p.dayOfYear.all (· = d.ordinal) && p.weekFromSunday.all (· = d.week 6) &&
    p.weekFromMonday.all (· = d.week 0) && p.isoWeek.all (· = d.isoWeek.2) &&
    p.weekday.all (· = d.weekday)

def toDate (p : DateParts) : Except PartsFault Date := do
  let year ← resolveYear p.year p.century p.yearOfCentury
  let isoYear ← resolveYear p.isoYear none p.isoYearOfCentury
  match p.named year isoYear with
  | none => .error .missing
  | some none => .error .contradiction
  | some (some d) => if p.agreesWith d then .ok d else .error .contradiction

end DateParts

/-- What is known of a time of day. The hour is kept as its half of the day and the hour in that half. -/
structure TimeParts where
  half : Option Nat := none
  hourOfHalf : Option Nat := none
  minute : Option Nat := none
  second : Option Nat := none
  nano : Option Nat := none
deriving DecidableEq

/-- The time of day. Seconds may be missing, and then their fraction has to be. -/
def TimeParts.toTime (p : TimeParts) : Except PartsFault TimeOfDay :=
  match p.half, p.hourOfHalf, p.minute with
  | some half, some hour, some minute =>
    if p.second.isNone && p.nano.isSome then .error .missing
    else
      let nano := p.nano.getD 0
      let time := match p.second.getD 0 with
        | 60 => TimeOfDay.ofParts? (12 * half + hour) minute 59 (1000000000 + nano)
        | second => TimeOfDay.ofParts? (12 * half + hour) minute second nano
      match time with
      | some t => .ok t
      | none => .error .contradiction
  | _, _, _ => .error .missing

/-- What has been read of a date or time. The offset is that of the time zone in seconds. -/
structure Parts where
  date : DateParts := {}
  time : TimeParts := {}
  unixSeconds : Option Int := none
  offset : Option Int := none
deriving DecidableEq

/-- A value that may be set twice but not to two different things. -/
def settle {α : Type} [DecidableEq α] (old : Option α) (new : α) : Option (Option α) :=
  match old with
  | none => some (some new)
  | some o => if o = new then some (some o) else none

namespace Parts

def set (p : Parts) (part : Part) (n : Int) : Option Parts :=
  if !part.admits n then none
  else
    let k := n.toNat
    match part with
    | .year => (settle p.date.year n).map fun v => { p with date.year := v }
    | .century => (settle p.date.century k).map fun v => { p with date.century := v }
    | .yearOfCentury => (settle p.date.yearOfCentury k).map fun v => { p with date.yearOfCentury := v }
    | .isoYear => (settle p.date.isoYear n).map fun v => { p with date.isoYear := v }
    | .isoYearOfCentury =>
      (settle p.date.isoYearOfCentury k).map fun v => { p with date.isoYearOfCentury := v }
    | .quarter => (settle p.date.quarter k).map fun v => { p with date.quarter := v }
    | .month => (settle p.date.month k).map fun v => { p with date.month := v }
    | .day => (settle p.date.day k).map fun v => { p with date.day := v }
    | .dayOfYear => (settle p.date.dayOfYear k).map fun v => { p with date.dayOfYear := v }
    | .weekFromSunday => (settle p.date.weekFromSunday k).map fun v => { p with date.weekFromSunday := v }
    | .weekFromMonday => (settle p.date.weekFromMonday k).map fun v => { p with date.weekFromMonday := v }
    | .isoWeek => (settle p.date.isoWeek k).map fun v => { p with date.isoWeek := v }
    | .daysFromSunday => (settle p.date.weekday ((k + 6) % 7)).map fun v => { p with date.weekday := v }
    | .daysFromMonday => (settle p.date.weekday (k - 1)).map fun v => { p with date.weekday := v }
    | .hour =>
      (settle p.time.half (k / 12)).bind fun half =>
        (settle p.time.hourOfHalf (k % 12)).map fun hour =>
          { p with time.half := half, time.hourOfHalf := hour }
    | .hourOfHalf => (settle p.time.hourOfHalf (k % 12)).map fun v => { p with time.hourOfHalf := v }
    | .minute => (settle p.time.minute k).map fun v => { p with time.minute := v }
    | .second => (settle p.time.second k).map fun v => { p with time.second := v }
    | .nano => (settle p.time.nano k).map fun v => { p with time.nano := v }
    | .unixSeconds => (settle p.unixSeconds n).map fun v => { p with unixSeconds := v }

/-- The parts with those of the second that a number of seconds since 1970 began stands for. Where a leap
second has been read, it is the one before a full minute. -/
def setUnixSeconds (p : Parts) (n : Int) : Option Parts := do
  let t ← Timestamp.ofUnixSeconds? n
  let t ←
    if p.time.second ≠ some 60 ∨ t.time.second = 59 then some t
    else if t.time.second = 0 then Timestamp.ofUnixSeconds? (n - 1)
    else none
  let p ← if p.time.second = some 60 then some p else p.set .second t.time.second
  let p ← p.set .year t.date.year
  let p ← p.set .dayOfYear t.date.ordinal
  let p ← p.set .hour t.time.hour
  p.set .minute t.time.minute

/-- The timestamp, of which the seconds since 1970 began may be a part: they complete other parts if these are
not enough, and have to agree with them if they are. A leap second agrees also with the second after it. -/
def toTimestamp (p : Parts) : Except PartsFault Timestamp :=
  match p.date.toDate, p.time.toTime with
  | .ok date, .ok time =>
    let t : Timestamp := ⟨date, time⟩
    let agrees (n : Int) : Bool := n = t.unixSeconds || (1000000000 ≤ time.nano && n = t.unixSeconds + 1)
    if p.unixSeconds.all agrees then .ok t else .error .contradiction
  | .error .contradiction, _ | _, .error .contradiction => .error .contradiction
  | _, _ =>
    match p.unixSeconds with
    | none => .error .missing
    | some n =>
      match p.setUnixSeconds n with
      | none => .error .contradiction
      | some p => do
        let date ← p.date.toDate
        let time ← p.time.toTime
        return ⟨date, time⟩

end Parts

end PlainTables.Calendar
