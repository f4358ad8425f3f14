import PlainTables.Calendar.Parts
import PlainTables.Proofs.Calendar.Days
import PlainTables.Proofs.Computation

/-!
# Dates and times by their parts

There are several ways to name a day. Whichever of them the parts of a date are enough for, the day is found that
has all of the parts.
-/

namespace PlainTables

/-- The second that is written, which is 60 in a leap second. -/
def TimeOfDay.writtenSecond (t : TimeOfDay) : Nat :=
  t.second + t.nano / 1000000000

namespace Calendar

namespace DateParts

variable {year : Int} {year? : Option Int} {century? rest? : Option Nat}

/-- The last two digits of a year are not known alone. -/
def hasCentury (year? : Option Int) (century? rest? : Option Nat) : Bool :=
  rest?.isNone || year?.isSome || century?.isSome

theorem resolveYear_of_agrees (agrees : agreesOnYear year year? century? rest? = true)
    (century : hasCentury year? century? rest? = true) :
    resolveYear year? century? rest? = .error .missing ∨
      ∃ found : Option Int, resolveYear year? century? rest? = .ok found ∧ ∀ y ∈ found, y = year := by
  simp only [agreesOnYear, Bool.and_eq_true, Option.all_eq_true, decide_eq_true_eq] at agrees
  obtain ⟨⟨whole, first⟩, last⟩ := agrees
  cases year? with
  | some y =>
    obtain rfl : y = year := whole y rfl
    right
    refine ⟨some y, ?_, fun z same => (Option.some.inj same).symm⟩
    cases century? with
    | none =>
      cases rest? with
      | none => rfl
      | some r =>
        have last := last r rfl
        simp [resolveYear, last]
    | some c =>
      have first := first c rfl
      simp only [resolveYear]
      rw [if_pos]
      refine ⟨first.1, decide_eq_true first.2, ?_⟩
      rw [Option.all_eq_true]
      intro r same
      exact decide_eq_true (last r same).2
  | none =>
    cases century? with
    | none =>
      cases rest? with
      | none => exact .inr ⟨none, rfl, by simp⟩
      | some r => cases century
    | some c =>
      cases rest? with
      | none => exact .inl rfl
      | some r =>
        have first := first c rfl
        have last := last r rfl
        refine .inr ⟨_, rfl, ?_⟩
        intro y same
        obtain rfl := Option.some.inj same
        omega

variable {p : DateParts} {d : Date} {year? isoYear? : Option Int}

theorem toDate_of_named (year : resolveYear p.year p.century p.yearOfCentury = .ok year?)
    (isoYear : resolveYear p.isoYear none p.isoYearOfCentury = .ok isoYear?)
    (named : p.named year? isoYear? = some (some d)) (agrees : p.agreesWith d = true) : p.toDate = .ok d := by
  simp only [toDate, year, isoYear, named, agrees, bind, Except.bind]
  rfl

theorem agreesWith_of_toDate (found : p.toDate = .ok d) : p.agreesWith d = true := by
  obtain ⟨year?, _, found⟩ := bind_eq_ok_iff.mp found
  obtain ⟨isoYear?, _, found⟩ := bind_eq_ok_iff.mp found
  split at found
  · cases found
  · cases found
  · split at found
    · cases found
      assumption
    · cases found

/-- If this way to name a day leads to anything, it leads to the day. -/
def NamesOnly (d : Date) (way : Option (Option Date)) : Prop :=
  ∀ found ∈ way, found = some d

theorem NamesOnly.orElse {first second : Option (Option Date)} (one : NamesOnly d first)
    (other : NamesOnly d second) : NamesOnly d (first <|> second) := by
  cases first with
  | none => exact other
  | some found => exact one

theorem namesOnly_bind {α : Type} {part? : Option α} {way : α → Option (Option Date)}
    (known : ∀ part ∈ part?, NamesOnly d (way part)) : NamesOnly d (part? >>= way) := by
  cases part? with
  | none =>
    intro found named
    cases named
  | some part => exact known part rfl

theorem namesOnly_of_found {found : Option Date} (same : found = some d) : NamesOnly d (pure found) := by
  rintro _ ⟨⟩
  exact same

theorem namesOnly_named (agrees : p.agreesWith d = true) (sameYear : ∀ y ∈ year?, y = d.year)
    (sameIsoYear : ∀ y ∈ isoYear?, y = d.isoWeek.1) : NamesOnly d (p.named year? isoYear?) := by
  simp only [agreesWith, Bool.and_eq_true, Option.all_eq_true, decide_eq_true_eq] at agrees
  obtain ⟨⟨⟨⟨⟨⟨⟨_, month⟩, day⟩, ordinal⟩, weekFromSunday⟩, weekFromMonday⟩, isoWeek⟩, weekday⟩ := agrees
  have byWeek {start : Nat} {week? : Option Nat} (isDay : start < 7) (week : ∀ w, week? = some w → w = d.week start) :
      NamesOnly d (do return Date.ofWeek? start (← year?) (← week?) (← p.weekday)) := by
    apply namesOnly_bind
    intro y knownYear
    apply namesOnly_bind
    intro w knownWeek
    apply namesOnly_bind
    intro wd knownDay
    apply namesOnly_of_found
    rw [sameYear y knownYear, week w knownWeek, weekday wd knownDay]
    exact Date.ofWeek?_week d isDay
  refine .orElse ?byMonth (.orElse ?byOrdinal (.orElse ?fromSunday (.orElse ?fromMonday ?byIsoWeek)))
  case byMonth =>
    apply namesOnly_bind
    intro y knownYear
    apply namesOnly_bind
    intro m knownMonth
    apply namesOnly_bind
    intro n knownDay
    apply namesOnly_of_found
    rw [sameYear y knownYear, month m knownMonth, day n knownDay]
    exact Date.ofParts?_eq_some_iff.mpr ⟨rfl, rfl, rfl⟩
  case byOrdinal =>
    apply namesOnly_bind
    intro y knownYear
    apply namesOnly_bind
    intro n knownDay
    apply namesOnly_of_found
    rw [sameYear y knownYear, ordinal n knownDay]
    exact Date.ofOrdinal?_eq_some_iff.mpr ⟨rfl, rfl⟩
  case fromSunday => exact byWeek (by decide) weekFromSunday
  case fromMonday => exact byWeek (by decide) weekFromMonday
  case byIsoWeek =>
    apply namesOnly_bind
    intro y knownYear
    apply namesOnly_bind
    intro w knownWeek
    apply namesOnly_bind
    intro wd knownDay
    apply namesOnly_of_found
    rw [sameIsoYear y knownYear, isoWeek w knownWeek, weekday wd knownDay]
    exact Date.ofIsoWeek?_isoWeek d

/-- The day that is found is the one with all of the parts, unless parts are missing. -/
theorem toDate_eq_ok_iff (century : hasCentury p.year p.century p.yearOfCentury = true)
    (isoCentury : hasCentury p.isoYear none p.isoYearOfCentury = true) :
    p.toDate = .ok d ↔ p.agreesWith d = true ∧ p.toDate ≠ .error .missing := by
  constructor
  · intro found
    refine ⟨agreesWith_of_toDate found, ?_⟩
    rw [found]
    intro same
    cases same
  · rintro ⟨agrees, enough⟩
    have years := agrees
    simp only [agreesWith, Bool.and_eq_true] at years
    obtain ⟨⟨⟨⟨⟨⟨⟨⟨⟨year, isoYear⟩, _⟩, _⟩, _⟩, _⟩, _⟩, _⟩, _⟩, _⟩ := years
    rcases resolveYear_of_agrees year century with missing | ⟨year?, resolved, sameYear⟩
    · refine absurd ?_ enough
      rw [toDate, missing]
      rfl
    rcases resolveYear_of_agrees isoYear isoCentury with missing | ⟨isoYear?, isoResolved, sameIsoYear⟩
    · refine absurd ?_ enough
      rw [toDate, resolved, missing]
      rfl
    cases named : p.named year? isoYear? with
    | none =>
      refine absurd ?_ enough
      simp only [toDate, resolved, isoResolved, named, bind, Except.bind]
    | some found =>
      rw [namesOnly_named agrees sameYear sameIsoYear found named] at named
      exact toDate_of_named resolved isoResolved named agrees

def ofDate (d : Date) : DateParts :=
  { year := some d.year, month := some d.month, day := some d.day }

theorem toDate_ofDate (d : Date) : (ofDate d).toDate = .ok d := by
  have named : (ofDate d).named (some d.year) none = some (some d) :=
    congrArg some (dif_pos d.valid)
  apply toDate_of_named rfl rfl named
  simp [agreesWith, agreesOnYear, ofDate]

end DateParts

namespace TimeParts

def ofTime (t : TimeOfDay) : TimeParts :=
  { half := some (t.hour / 12), hourOfHalf := some (t.hour % 12), minute := some t.minute,
    second := some t.writtenSecond }

/-- A whole second is found again, a leap second as the one after the 59th. -/
theorem toTime_ofTime {t : TimeOfDay} (whole : t.isWholeSecond = true) :
    (ofTime t).toTime = .ok t := by
  have whole : t.nano % 1000000000 = 0 := of_decide_eq_true whole
  have valid := t.valid
  have same : TimeOfDay.ofParts? t.hour t.minute t.second t.nano = some t := dif_pos valid
  simp only [isTime, Bool.and_eq_true, Bool.or_eq_true, decide_eq_true_eq] at valid
  have hour : 12 * (t.hour / 12) + t.hour % 12 = t.hour := Nat.div_add_mod t.hour 12
  by_cases leap : t.nano = 0
  · have second : t.writtenSecond = t.second := by
      rw [TimeOfDay.writtenSecond, leap, Nat.zero_div, Nat.add_zero]
    have proper : t.second ≠ 60 := by omega
    rw [leap] at same
    simp only [toTime, ofTime, second, Option.isNone_some, Bool.false_and, Bool.false_eq_true, if_false,
      Option.getD_some, Option.getD_none, hour, same]
  · have nano : t.nano = 1000000000 + 0 := by omega
    have second : t.second = 59 := by omega
    have written : t.writtenSecond = 60 := by
      rw [TimeOfDay.writtenSecond, nano, second]
    rw [nano, second] at same
    simp only [toTime, ofTime, written, Option.isNone_some, Bool.false_and, Bool.false_eq_true, if_false,
      Option.getD_some, Option.getD_none, hour, same]

end TimeParts

theorem Part.admits_iff {part : Part} {n : Int} :
    part.admits n = true ↔ part.bounds.1 ≤ n ∧ n ≤ part.bounds.2 := by
  simp only [admits, Bool.and_eq_true, decide_eq_true_eq]

/-- Every part of a date is one that may be read. -/
theorem admits_date (d : Date) :
    Part.year.admits d.year = true ∧ Part.month.admits d.month = true ∧ Part.day.admits d.day = true ∧
      Part.dayOfYear.admits d.ordinal = true := by
  have valid := d.valid
  have most := daysInMonth_le d.year d.month
  have place := d.ordinal_bounds
  have short := daysInYear_le d.year
  simp only [isDay, Bool.and_eq_true, decide_eq_true_eq] at valid
  simp only [Part.admits_iff, Part.bounds]
  omega

theorem admits_time (t : TimeOfDay) :
    Part.hour.admits t.hour = true ∧ Part.minute.admits t.minute = true ∧
      Part.second.admits t.writtenSecond = true := by
  have valid := t.valid
  simp only [isTime, Bool.and_eq_true, Bool.or_eq_true, decide_eq_true_eq] at valid
  simp only [Part.admits_iff, Part.bounds, TimeOfDay.writtenSecond]
  omega

namespace Parts

variable {p : Parts}

theorem set_year (d : Date) (fresh : p.date.year = none) :
    p.set .year d.year = some { p with date.year := some d.year } := by
  simp only [set, admits_date, fresh]
  rfl

theorem set_month (d : Date) (fresh : p.date.month = none) :
    p.set .month d.month = some { p with date.month := some d.month } := by
  simp only [set, admits_date, fresh]
  rfl

theorem set_day (d : Date) (fresh : p.date.day = none) :
    p.set .day d.day = some { p with date.day := some d.day } := by
  simp only [set, admits_date, fresh]
  rfl

theorem set_dayOfYear (d : Date) (fresh : p.date.dayOfYear = none) :
    p.set .dayOfYear d.ordinal = some { p with date.dayOfYear := some d.ordinal } := by
  simp only [set, admits_date, fresh]
  rfl

theorem set_hour (t : TimeOfDay) (fresh : p.time.half = none) (fresh' : p.time.hourOfHalf = none) :
    p.set .hour t.hour =
      some { p with time.half := some (t.hour / 12), time.hourOfHalf := some (t.hour % 12) } := by
  simp only [set, admits_time, fresh, fresh']
  rfl

theorem set_minute (t : TimeOfDay) (fresh : p.time.minute = none) :
    p.set .minute t.minute = some { p with time.minute := some t.minute } := by
  simp only [set, admits_time, fresh]
  rfl

theorem set_second (t : TimeOfDay) (fresh : p.time.second = none) :
    p.set .second t.writtenSecond = some { p with time.second := some t.writtenSecond } := by
  simp only [set, admits_time, fresh]
  rfl

/-- The parts of a timestamp that are entered for the seconds since 1970 began. -/
def ofSeconds (t : Timestamp) : Parts :=
  { date := { year := some t.date.year, dayOfYear := some t.date.ordinal }, time := .ofTime t.time,
    unixSeconds := some t.unixSeconds }

theorem setUnixSeconds_unixSeconds {t : Timestamp} (whole : t.time.nano = 0) :
    ({ unixSeconds := some t.unixSeconds } : Parts).setUnixSeconds t.unixSeconds = some (ofSeconds t) := by
  have second : t.time.second = t.time.writtenSecond := by
    rw [TimeOfDay.writtenSecond, whole, Nat.zero_div, Nat.add_zero]
  have notLeap : (none : Option Nat) ≠ some 60 := nofun
  rw [setUnixSeconds, Timestamp.ofUnixSeconds?_unixSeconds whole]
  simp only [Option.bind_eq_bind, Option.bind_some, second, notLeap, ne_eq, not_false_eq_true, true_or, if_true,
    if_false]
  simp only [set_second, set_year, set_dayOfYear, set_hour, set_minute, Option.bind_some]
  rfl

/-- Seconds since 1970 began are enough for a timestamp. -/
theorem toTimestamp_unixSeconds {t : Timestamp} (whole : t.time.nano = 0) :
    ({ unixSeconds := some t.unixSeconds } : Parts).toTimestamp = .ok t := by
  have date : (ofSeconds t).date.toDate = .ok t.date := by
    have named : (ofSeconds t).date.named (some t.date.year) none = some (some t.date) :=
      congrArg some (Date.ofOrdinal?_eq_some_iff.mpr ⟨rfl, rfl⟩)
    apply DateParts.toDate_of_named rfl rfl named
    simp [DateParts.agreesWith, DateParts.agreesOnYear, ofSeconds]
  have time : (ofSeconds t).time.toTime = .ok t.time := by
    apply TimeParts.toTime_ofTime
    simp [TimeOfDay.isWholeSecond, whole]
  have entered := setUnixSeconds_unixSeconds whole
  have noDate : ({} : DateParts).toDate = .error .missing := rfl
  have noTime : ({} : TimeParts).toTime = .error .missing := rfl
  simp only [toTimestamp, noDate, noTime, entered, date, time]
  rfl

end Parts

end Calendar

end PlainTables
