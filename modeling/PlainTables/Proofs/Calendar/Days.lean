import Mathlib.Order.Monotone.Basic
import PlainTables.Proofs.Calendar.Order

/-!
# Days by their numbers

The days of the calendar are numbered without gaps, in chronological order: there is one day for each number
of a day, and one for each place in a year that the year has. A day is also the only one in its week with its
day of the week, whichever way the weeks are counted.
-/

namespace PlainTables

open Std

namespace Calendar

/-- The days of some months that follow each other, from the given one on. -/
def daysFrom (year : Int) : Nat → Nat → Nat
  | _, 0 => 0
  | month, count + 1 => daysInMonth year month + daysFrom year (month + 1) count

theorem daysFrom_succ (year : Int) (month count : Nat) :
    daysFrom year month (count + 1) = daysFrom year month count + daysInMonth year (month + count) := by
  induction count generalizing month with
  | zero => simp [daysFrom]
  | succ count ih =>
    have next : month + 1 + count = month + (count + 1) := by omega
    rw [daysFrom, ih, daysFrom, next, Nat.add_assoc]

theorem daysFrom_mono (year : Int) (month : Nat) : Monotone (daysFrom year month) := by
  apply monotone_nat_of_le_succ
  intro count
  rw [daysFrom_succ]
  exact Nat.le_add_right _ _

theorem daysFrom_twelve (year : Int) : daysFrom year 1 12 = daysInYear year := by
  cases leap : isLeapYear year <;> simp [daysFrom, daysInMonth, daysInYear, leap]

theorem daysBefore_succ (year : Int) : daysBefore (year + 1) = daysBefore year + daysInYear year := by
  simp only [daysBefore, daysInYear, isLeapYear]
  grind

theorem daysInYear_le (year : Int) : daysInYear year ≤ 366 := by
  unfold daysInYear
  split <;> decide

theorem daysBefore_mono {a b : Int} (le : a ≤ b) : daysBefore a ≤ daysBefore b := by
  obtain ⟨n, rfl⟩ := Int.le.dest le
  clear le
  induction n with
  | zero => exact Int.le_of_eq (congrArg daysBefore (Int.add_zero a).symm)
  | succ n ih =>
    rw [Int.natCast_succ, ← Int.add_assoc, daysBefore_succ]
    omega

/-- There is no more than one year that a day can be in. -/
theorem year_unique {n : Int} {a b : Int} (fromA : daysBefore a ≤ n) (toA : n < daysBefore (a + 1))
    (fromB : daysBefore b ≤ n) (toB : n < daysBefore (b + 1)) : a = b := by
  by_contra other
  rcases Int.lt_or_gt_of_ne other with less | less
  · have := daysBefore_mono (show a + 1 ≤ b from less)
    omega
  · have := daysBefore_mono (show b + 1 ≤ a from less)
    omega

end Calendar

open Calendar

namespace Date

variable {d : Date} {year : Int}

theorem bounds (d : Date) :
    1 ≤ d.month ∧ d.month ≤ 12 ∧ 1 ≤ d.day ∧ d.day ≤ daysInMonth d.year d.month := by
  have valid := d.valid
  simp only [isDay, Bool.and_eq_true, decide_eq_true_eq] at valid
  omega

theorem ofParts?_eq_some_iff {month day : Nat} :
    ofParts? year month day = some d ↔ d.year = year ∧ d.month = month ∧ d.day = day := by
  constructor
  · intro made
    rw [ofParts?] at made
    split at made
    · cases made
      exact ⟨rfl, rfl, rfl⟩
    · cases made
  · rintro ⟨rfl, rfl, rfl⟩
    exact dif_pos d.valid

theorem ordinal_eq (d : Date) : d.ordinal = daysFrom d.year 1 (d.month - 1) + d.day := by
  have folded : ∀ n, (List.range n).foldl (fun days m => days + daysInMonth d.year (m + 1)) d.day =
      daysFrom d.year 1 n + d.day := by
    intro n
    induction n with
    | zero => simp [daysFrom]
    | succ n ih =>
      rw [List.range_succ, List.foldl_append, ih, daysFrom_succ, Nat.add_comm 1 n, Nat.add_right_comm]
      rfl
  exact folded _

theorem ordinal_le (d : Date) : d.ordinal ≤ daysFrom d.year 1 d.month := by
  obtain ⟨first, _, _, most⟩ := d.bounds
  have step := daysFrom_succ d.year 1 (d.month - 1)
  rw [Nat.sub_add_cancel first, Nat.add_sub_cancel' first] at step
  rw [ordinal_eq, step]
  exact Nat.add_le_add_left most _

theorem ordinal_bounds (d : Date) : 1 ≤ d.ordinal ∧ d.ordinal ≤ daysInYear d.year := by
  obtain ⟨_, last, least, _⟩ := d.bounds
  constructor
  · rw [ordinal_eq]
    exact Nat.le_add_left_of_le least
  · calc d.ordinal ≤ daysFrom d.year 1 d.month := d.ordinal_le
      _ ≤ daysFrom d.year 1 12 := daysFrom_mono _ 1 last
      _ = daysInYear d.year := daysFrom_twelve d.year

theorem go_eq_some {month count fuel rest : Nat} (day : d.year = year) (reached : d.month = month + count)
    (left : rest = daysFrom year month count + d.day) (enough : count < fuel) :
    ofOrdinal?.go year month rest fuel = some d := by
  obtain ⟨_, _, least, most⟩ := d.bounds
  induction fuel generalizing month count rest with
  | zero => exact absurd enough (Nat.not_lt_zero _)
  | succ fuel ih =>
    rw [ofOrdinal?.go]
    cases count with
    | zero =>
      have here : d.month = month := reached
      have last : rest = d.day := by simpa [daysFrom] using left
      rw [← here, ← day, last, if_pos most]
      exact ofParts?_eq_some_iff.mpr ⟨rfl, rfl, rfl⟩
    | succ count =>
      rw [daysFrom] at left
      have later : ¬ rest ≤ daysInMonth year month := by omega
      have reached : d.month = month + 1 + count := by omega
      have left : rest - daysInMonth year month = daysFrom year (month + 1) count + d.day := by omega
      rw [if_neg later]
      exact ih reached left (Nat.lt_of_succ_lt_succ enough)

theorem of_go_eq_some {month fuel rest : Nat} (found : ofOrdinal?.go year month rest fuel = some d) :
    d.year = year ∧ ∃ count, d.month = month + count ∧ rest = daysFrom year month count + d.day := by
  induction fuel generalizing month rest with
  | zero => cases found
  | succ fuel ih =>
    rw [ofOrdinal?.go] at found
    split at found
    · obtain ⟨year, month, day⟩ := ofParts?_eq_some_iff.mp found
      refine ⟨year, 0, month, ?_⟩
      rw [day, daysFrom, Nat.zero_add]
    · next later =>
      obtain ⟨year, count, month, left⟩ := ih found
      refine ⟨year, count + 1, ?_, ?_⟩
      · omega
      · rw [daysFrom]
        omega

/-- A day is found by its place in its year. -/
theorem ofOrdinal?_eq_some_iff {n : Nat} : ofOrdinal? year n = some d ↔ d.year = year ∧ d.ordinal = n := by
  obtain ⟨first, last, _, _⟩ := d.bounds
  constructor
  · intro found
    obtain ⟨rfl, count, month, place⟩ := of_go_eq_some found
    have before : d.month - 1 = count := by omega
    exact ⟨rfl, by rw [ordinal_eq, before, place]⟩
  · rintro ⟨rfl, rfl⟩
    have reached : d.month = 1 + (d.month - 1) := by omega
    have enough : d.month - 1 < 12 := by omega
    exact go_eq_some rfl reached (ordinal_eq d) enough

theorem dayNumber_bounds (d : Date) :
    daysBefore d.year ≤ d.dayNumber ∧ d.dayNumber < daysBefore (d.year + 1) := by
  have place := d.ordinal_bounds
  rw [daysBefore_succ, dayNumber]
  omega

/-- The year in which a number is the number of a day. -/
theorem exists_year (n : Int) :
    ∃ year, daysBefore year ≤ n ∧ n < daysBefore (year + 1) ∧
      ofDayNumber? n = ofOrdinal? year (n - daysBefore year + 1).toNat := by
  have guess : ∃ guess, guess = n / 146097 * 400 + n % 146097 / 365 + 1 ∧
      daysBefore (guess - 1) ≤ n ∧ n < daysBefore (guess + 1) := by
    -- 400 years have 146097 days, of which the leap days are fewer than a year: the guess is at most one too large
    refine ⟨_, rfl, ?_, ?_⟩
    · rw [daysBefore]
      omega
    · rw [daysBefore]
      omega
  obtain ⟨guess, guess_eq, start, finish⟩ := guess
  by_cases early : n < daysBefore guess
  · refine ⟨guess - 1, start, ?_, ?_⟩
    · rwa [Int.sub_add_cancel]
    · simp only [ofDayNumber?, ← guess_eq, if_pos early]
  · refine ⟨guess, Int.not_lt.mp early, finish, ?_⟩
    simp only [ofDayNumber?, ← guess_eq, if_neg early]

/-- There is one day for each number of a day. -/
theorem ofDayNumber?_eq_some_iff {n : Int} : ofDayNumber? n = some d ↔ d.dayNumber = n := by
  obtain ⟨year, start, finish, same⟩ := exists_year n
  rw [same, ofOrdinal?_eq_some_iff]
  constructor
  · rintro ⟨rfl, place⟩
    rw [dayNumber]
    omega
  · rintro rfl
    have bounds := d.dayNumber_bounds
    have same := year_unique bounds.1 bounds.2 start finish
    refine ⟨same, ?_⟩
    rw [dayNumber, same]
    omega

theorem dayNumber_lt {a b : Date} (earlier : a.compare b = .lt) : a.dayNumber < b.dayNumber := by
  rcases Ordering.then_eq_lt.mp earlier with years | ⟨years, rest⟩
  · have less : a.year + 1 ≤ b.year := Int.compare_eq_lt.mp years
    calc a.dayNumber < daysBefore (a.year + 1) := a.dayNumber_bounds.2
      _ ≤ daysBefore b.year := daysBefore_mono less
      _ ≤ b.dayNumber := b.dayNumber_bounds.1
  · have sameYear : a.year = b.year := Int.compare_eq_eq.mp years
    have places : a.ordinal < b.ordinal := by
      rcases Ordering.then_eq_lt.mp rest with months | ⟨months, days⟩
      · have less : a.month ≤ b.month - 1 := Nat.le_sub_one_of_lt (Nat.compare_eq_lt.mp months)
        calc a.ordinal ≤ daysFrom a.year 1 a.month := a.ordinal_le
          _ ≤ daysFrom a.year 1 (b.month - 1) := daysFrom_mono _ 1 less
          _ < b.ordinal := by
            rw [ordinal_eq, sameYear]
            exact Nat.lt_add_of_pos_right b.bounds.2.2.1
      · rw [ordinal_eq, ordinal_eq, sameYear, Nat.compare_eq_eq.mp months]
        exact Nat.add_lt_add_left (Nat.compare_eq_lt.mp days) _
    rw [dayNumber, dayNumber, sameYear]
    omega

/-- The order of days is that of their numbers. -/
theorem compare_eq_compare_dayNumber (a b : Date) : a.compare b = Ord.compare a.dayNumber b.dayNumber := by
  cases order : a.compare b with
  | lt => exact (Int.compare_eq_lt.mpr (dayNumber_lt order)).symm
  | eq =>
    obtain rfl : a = b := LawfulEqCmp.eq_of_compare order
    exact (Int.compare_eq_eq.mpr rfl).symm
  | gt => exact (Int.compare_eq_gt.mpr (dayNumber_lt (OrientedCmp.gt_iff_lt.mp order))).symm

variable {start : Nat}

/-- A day is the one of its week with its day of the week. -/
theorem ofWeek?_week (d : Date) (isDay : start < 7) :
    ofWeek? start d.year (d.week start) d.weekday = some d := by
  obtain ⟨first, _⟩ := d.ordinal_bounds
  have place : ((start + 7 - (daysBefore d.year % 7).toNat) % 7 + 1 : Nat) + ((d.week start : Int) - 1) * 7 +
      ((d.weekday + 7 - start) % 7 : Nat) = (d.ordinal : Int) := by
    simp only [week, weekday, dayNumber]
    omega
  have positive : ¬ (d.ordinal : Int) ≤ 0 := by omega
  simp only [ofWeek?, place, if_neg positive]
  exact ofOrdinal?_eq_some_iff.mpr ⟨rfl, rfl⟩

/-- Seen from the year before or after its own, the place of a day is behind the last one or before the first. -/
theorem ofOrdinalAround?_eq_some {n : Int} (place : daysBefore year + n - 1 = d.dayNumber)
    (close : year - 1 ≤ d.year ∧ d.year ≤ year + 1) : ofOrdinalAround? year n = some d := by
  obtain ⟨first, last⟩ := d.ordinal_bounds
  have before := daysBefore_succ (year - 1)
  have after := daysBefore_succ year
  rw [Int.sub_add_cancel] at before
  rw [dayNumber] at place
  rw [ofOrdinalAround?]
  obtain same | same | same : d.year = year - 1 ∨ d.year = year ∨ d.year = year + 1 := by omega
  · rw [same] at place last
    have early : n ≤ 0 := by omega
    rw [if_pos early]
    exact ofOrdinal?_eq_some_iff.mpr ⟨same, by omega⟩
  · rw [same] at place last
    have notEarly : ¬ n ≤ 0 := by omega
    have notLate : ¬ (daysInYear year : Int) < n := by omega
    rw [if_neg notEarly, if_neg notLate]
    exact ofOrdinal?_eq_some_iff.mpr ⟨same, by omega⟩
  · rw [same] at place last
    have notEarly : ¬ n ≤ 0 := by omega
    have late : (daysInYear year : Int) < n := by omega
    rw [if_neg notEarly, if_pos late]
    exact ofOrdinal?_eq_some_iff.mpr ⟨same, by omega⟩

theorem weekday_eq (d : Date) : (d.weekday : Int) = (daysBefore d.year + d.ordinal - 1) % 7 :=
  Int.toNat_of_nonneg (Int.emod_nonneg _ (by decide))

/-- The weeks of the ISO calendar may begin in the year before or end in the year after. -/
theorem ofIsoWeek?_isoWeek (d : Date) : ofIsoWeek? d.isoWeek.1 d.isoWeek.2 d.weekday = some d := by
  have ordinal := d.ordinal_bounds
  have weekday := d.weekday_eq
  have before := daysBefore_succ (d.year - 1)
  have after := daysBefore_succ d.year
  rw [Int.sub_add_cancel] at before
  cases iso : d.isoWeek with
  | mk year week =>
    have place : daysBefore year + (4 - (daysBefore year + 3) % 7 + ((week : Int) - 1) * 7 + d.weekday) - 1 =
        d.dayNumber ∧ year - 1 ≤ d.year ∧ d.year ≤ year + 1 := by
      rw [dayNumber]
      simp only [isoWeek] at iso
      -- the Thursday of the week is in the year before, in the year after, or in the same year
      split at iso
      · obtain ⟨rfl, rfl⟩ := Prod.mk.inj iso
        omega
      · split at iso
        · obtain ⟨rfl, rfl⟩ := Prod.mk.inj iso
          omega
        · obtain ⟨rfl, rfl⟩ := Prod.mk.inj iso
          omega
    exact ofOrdinalAround?_eq_some place.1 place.2

end Date

namespace Timestamp

theorem ofUnixSeconds?_unixSeconds {t : Timestamp} (whole : t.time.nano = 0) :
    ofUnixSeconds? t.unixSeconds = some t := by
  obtain ⟨date, time⟩ := t
  have valid := time.valid
  simp only [isTime, Bool.and_eq_true, Bool.or_eq_true, decide_eq_true_eq] at valid
  have day : Date.ofDayNumber? (unixSeconds ⟨date, time⟩ / 86400 + 719162) = some date := by
    apply Date.ofDayNumber?_eq_some_iff.mpr
    simp only [unixSeconds]
    omega
  have second : (unixSeconds ⟨date, time⟩ % 86400).toNat = time.hour * 3600 + time.minute * 60 + time.second := by
    simp only [unixSeconds]
    omega
  have clock : TimeOfDay.ofParts? ((unixSeconds ⟨date, time⟩ % 86400).toNat / 3600)
      ((unixSeconds ⟨date, time⟩ % 86400).toNat / 60 % 60) ((unixSeconds ⟨date, time⟩ % 86400).toNat % 60) 0 =
      some time := by
    have hour : (unixSeconds ⟨date, time⟩ % 86400).toNat / 3600 = time.hour := by omega
    have minute : (unixSeconds ⟨date, time⟩ % 86400).toNat / 60 % 60 = time.minute := by omega
    have rest : (unixSeconds ⟨date, time⟩ % 86400).toNat % 60 = time.second := by omega
    rw [hour, minute, rest, ← whole]
    exact dif_pos time.valid
  simp only [ofUnixSeconds?, day, clock]
  rfl

end Timestamp
end PlainTables
