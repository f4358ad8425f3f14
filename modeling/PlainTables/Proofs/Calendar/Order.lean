import Mathlib.Algebra.GroupWithZero.Nat
import Mathlib.Order.Compare
import PlainTables.Calendar

/-!
# Chronological order

Days, times of day and timestamps are in one line each: of two different ones one is the earlier, and what
is earlier than an earlier one is earlier.

All parts of a date or time are written with fixed numbers of digits, the most significant part first. So
texts of dates are in the order of the dates, as long as their years have four digits, and texts of times
are in the order of the times, as long as these have no fraction of a second.
-/

namespace PlainTables

open Std

instance : TransCmp Date.compare :=
  inferInstanceAs (TransCmp (compareLex (compareOn Date.year)
    (compareLex (compareOn Date.month) (compareOn Date.day))))

instance : LawfulEqCmp Date.compare where
  eq_of_compare {a b} same := by
    have parts : a.year = b.year ∧ a.month = b.month ∧ a.day = b.day := by
      simpa only [Date.compare, Ordering.then_eq_eq, LawfulEqOrd.compare_eq_iff_eq] using same
    cases a
    cases b
    obtain ⟨rfl, rfl, rfl⟩ := parts
    rfl

instance : TransCmp TimeOfDay.compare :=
  inferInstanceAs (TransCmp (compareLex (compareOn TimeOfDay.hour)
    (compareLex (compareOn TimeOfDay.minute)
      (compareLex (compareOn TimeOfDay.second) (compareOn TimeOfDay.nano)))))

instance : LawfulEqCmp TimeOfDay.compare where
  eq_of_compare {a b} same := by
    have parts : a.hour = b.hour ∧ a.minute = b.minute ∧ a.second = b.second ∧ a.nano = b.nano := by
      simpa only [TimeOfDay.compare, Ordering.then_eq_eq, LawfulEqOrd.compare_eq_iff_eq] using same
    cases a
    cases b
    obtain ⟨rfl, rfl, rfl, rfl⟩ := parts
    rfl

section

local instance : Ord Date := ⟨Date.compare⟩

local instance : Ord TimeOfDay := ⟨TimeOfDay.compare⟩

local instance : TransOrd Date := inferInstanceAs (TransCmp Date.compare)

local instance : TransOrd TimeOfDay := inferInstanceAs (TransCmp TimeOfDay.compare)

instance : TransCmp Timestamp.compare :=
  inferInstanceAs (TransCmp (compareLex (compareOn Timestamp.date) (compareOn Timestamp.time)))

end

instance : LawfulEqCmp Timestamp.compare where
  eq_of_compare {a b} same := by
    obtain ⟨date, time⟩ := Ordering.then_eq_eq.mp same
    have date : a.date = b.date := LawfulEqCmp.eq_of_compare date
    have time : a.time = b.time := LawfulEqCmp.eq_of_compare time
    cases a
    cases b
    obtain rfl := date
    obtain rfl := time
    rfl

namespace Numeral

/-- The last digits of a number, as many as the count. -/
def fixed : Nat → Nat → List Char
  | 0, _ => []
  | count + 1, n => fixed count (n / 10) ++ [Nat.digitChar (n % 10)]

theorem digitChar_lt : ∀ n < 10, ∀ m < n, Nat.digitChar m < Nat.digitChar n := by decide

/-- Numbers with equally many digits are in the order of their texts, whatever follows. -/
theorem fixed_append_lt {count m n : Nat} (less : m < n) (bound : n < 10 ^ count) (s t : List Char) :
    fixed count m ++ s < fixed count n ++ t := by
  induction count generalizing m n s t with
  | zero => omega
  | succ count ih =>
    rw [Nat.pow_succ] at bound
    rw [fixed, fixed, List.append_assoc, List.append_assoc]
    rcases Nat.lt_or_eq_of_le (Nat.div_le_div_right (c := 10) (Nat.le_of_lt less)) with front | front
    · exact ih front (by omega) _ _
    · rw [front]
      refine List.append_left_lt ?_
      exact List.cons_lt_cons_iff.mpr (.inl (digitChar_lt _ (Nat.mod_lt _ (by decide)) _ (by omega)))

theorem padded_eq_fixed (count : Nat) {n : Nat} (bound : n < 10 ^ (count + 1)) :
    List.replicate (count + 1 - (Nat.toDigits 10 n).length) '0' ++ Nat.toDigits 10 n =
      fixed (count + 1) n := by
  induction count generalizing n with
  | zero =>
    rw [Nat.toDigits_of_lt_base (by omega), fixed, Nat.mod_eq_of_lt (by omega)]
    rfl
  | succ count ih =>
    rw [Nat.pow_succ] at bound
    rw [fixed, ← ih (n := n / 10) (by omega)]
    by_cases digit : n < 10
    · rw [Nat.toDigits_of_lt_base digit, Nat.div_eq_of_lt digit, Nat.mod_eq_of_lt digit,
        Nat.toDigits_zero]
      simp [← List.replicate_succ']
    · have longer := Nat.toDigits_of_base_le (b := 10) (by decide) (Nat.le_of_not_lt digit)
      rw [longer, List.length_append, List.length_singleton, ← List.append_assoc,
        Nat.add_sub_add_right]

theorem twoDigits_eq_fixed (n : Nat) : twoDigits n = fixed 2 n := rfl

end Numeral

theorem compare_text {α : Type} {cmp : α → α → Ordering} [OrientedCmp cmp] [LawfulEqCmp cmp]
    {text : α → List Char} {a b : α} (up : cmp a b = .lt → text a < text b)
    (down : cmp b a = .lt → text b < text a) :
    cmp a b = compare (String.ofList (text a)) (String.ofList (text b)) := by
  have less {c d : α} (texts : text c < text d) :
      compare (String.ofList (text c)) (String.ofList (text d)) = .lt := by
    refine compareOfLessAndEq_eq_lt.mpr ?_
    change (String.ofList (text c)).toList < (String.ofList (text d)).toList
    rwa [String.toList_ofList, String.toList_ofList]
  cases order : cmp a b with
  | lt => exact (less (up order)).symm
  | eq =>
    obtain rfl : a = b := LawfulEqCmp.eq_of_compare order
    exact (@ReflCmp.compare_self _ compare _ _).symm
  | gt =>
    have texts := less (down (OrientedCmp.gt_iff_lt.mp order))
    exact (@OrientedCmp.gt_iff_lt _ compare _ _ _).mpr texts |>.symm

theorem Calendar.daysInMonth_le (year : Int) (month : Nat) : daysInMonth year month ≤ 31 := by
  unfold daysInMonth
  split
  · split <;> decide
  · split <;> decide

namespace Date

def isFourDigit (d : Date) : Bool :=
  0 ≤ d.year ∧ d.year ≤ 9999

theorem yearText_eq_fixed {year : Int} (nonneg : 0 ≤ year) (short : year ≤ 9999) :
    yearText year = Numeral.fixed 4 year.toNat := by
  have same : year.natAbs = year.toNat := by omega
  rw [← Numeral.padded_eq_fixed 3 (by omega), yearText, if_neg (by omega), if_neg (by omega), same]

theorem month_and_day_lt (d : Date) : d.month < 100 ∧ d.day < 100 := by
  have valid := d.valid
  have most := Calendar.daysInMonth_le d.year d.month
  simp only [Calendar.isDay, Bool.and_eq_true, decide_eq_true_eq] at valid
  omega

theorem text_append_lt {a b : Date} (fourA : a.isFourDigit = true) (fourB : b.isFourDigit = true)
    (earlier : a.compare b = .lt) (s t : List Char) : a.text ++ s < b.text ++ t := by
  have rangeA : 0 ≤ a.year ∧ a.year ≤ 9999 := of_decide_eq_true fourA
  have rangeB : 0 ≤ b.year ∧ b.year ≤ 9999 := of_decide_eq_true fourB
  obtain ⟨month, day⟩ := b.month_and_day_lt
  simp only [text, yearText_eq_fixed rangeA.1 rangeA.2, yearText_eq_fixed rangeB.1 rangeB.2,
    Numeral.twoDigits_eq_fixed, List.append_assoc, List.cons_append]
  rcases Ordering.then_eq_lt.mp earlier with years | ⟨years, rest⟩
  · have less : a.year < b.year := Int.compare_eq_lt.mp years
    exact Numeral.fixed_append_lt (by omega) (by omega) _ _
  · rw [Int.compare_eq_eq.mp years]
    refine List.append_left_lt (List.cons_lt_cons_self.mpr ?_)
    rcases Ordering.then_eq_lt.mp rest with months | ⟨months, days⟩
    · exact Numeral.fixed_append_lt (Nat.compare_eq_lt.mp months) month _ _
    · rw [Nat.compare_eq_eq.mp months]
      refine List.append_left_lt (List.cons_lt_cons_self.mpr ?_)
      exact Numeral.fixed_append_lt (Nat.compare_eq_lt.mp days) day _ _

/-- Days of years with four digits are in the order of their texts. -/
theorem compare_eq_compare_text {a b : Date} (fourA : a.isFourDigit = true)
    (fourB : b.isFourDigit = true) :
    a.compare b = Ord.compare (String.ofList a.text) (String.ofList b.text) :=
  compare_text (fun earlier => by simpa using text_append_lt fourA fourB earlier [] [])
    fun earlier => by simpa using text_append_lt fourB fourA earlier [] []

end Date

namespace TimeOfDay

def isWholeSecond (t : TimeOfDay) : Bool :=
  t.nano % 1000000000 = 0

theorem text_append_lt {a b : TimeOfDay} (wholeA : a.isWholeSecond = true)
    (wholeB : b.isWholeSecond = true) (earlier : a.compare b = .lt) (s t : List Char) :
    a.text ++ s < b.text ++ t := by
  have wholeA : a.nano % 1000000000 = 0 := of_decide_eq_true wholeA
  have wholeB : b.nano % 1000000000 = 0 := of_decide_eq_true wholeB
  have validA := a.valid
  have validB := b.valid
  simp only [Calendar.isTime, Bool.and_eq_true, Bool.or_eq_true, decide_eq_true_eq] at validA validB
  simp only [text, Numeral.twoDigits_eq_fixed, List.append_assoc, List.cons_append]
  rcases Ordering.then_eq_lt.mp earlier with hours | ⟨hours, rest⟩
  · exact Numeral.fixed_append_lt (Nat.compare_eq_lt.mp hours) (by omega) _ _
  · rw [Nat.compare_eq_eq.mp hours]
    refine List.append_left_lt (List.cons_lt_cons_self.mpr ?_)
    rcases Ordering.then_eq_lt.mp rest with minutes | ⟨minutes, rest⟩
    · exact Numeral.fixed_append_lt (Nat.compare_eq_lt.mp minutes) (by omega) _ _
    · rw [Nat.compare_eq_eq.mp minutes]
      refine List.append_left_lt (List.cons_lt_cons_self.mpr ?_)
      -- A leap second is written as one more second and comes after second 59.
      have seconds : a.second < b.second ∨ a.second = b.second ∧ a.nano < b.nano := by
        rcases Ordering.then_eq_lt.mp rest with seconds | ⟨seconds, nanos⟩
        · exact .inl (Nat.compare_eq_lt.mp seconds)
        · exact .inr ⟨Nat.compare_eq_eq.mp seconds, Nat.compare_eq_lt.mp nanos⟩
      exact Numeral.fixed_append_lt (by omega) (by omega) _ _

theorem compare_eq_compare_text {a b : TimeOfDay} (wholeA : a.isWholeSecond = true)
    (wholeB : b.isWholeSecond = true) :
    a.compare b = Ord.compare (String.ofList a.text) (String.ofList b.text) :=
  compare_text (fun earlier => by simpa using text_append_lt wholeA wholeB earlier [] [])
    fun earlier => by simpa using text_append_lt wholeB wholeA earlier [] []

end TimeOfDay

namespace Timestamp

def isPlain (t : Timestamp) : Bool :=
  t.date.isFourDigit && t.time.isWholeSecond

theorem text_lt {a b : Timestamp} (plainA : a.isPlain = true) (plainB : b.isPlain = true)
    (earlier : a.compare b = .lt) : a.text < b.text := by
  obtain ⟨dateA, timeA⟩ := Bool.and_eq_true_iff.mp plainA
  obtain ⟨dateB, timeB⟩ := Bool.and_eq_true_iff.mp plainB
  unfold text
  rcases Ordering.then_eq_lt.mp earlier with dates | ⟨dates, times⟩
  · exact Date.text_append_lt dateA dateB dates _ _
  · rw [LawfulEqCmp.eq_of_compare dates]
    refine List.append_left_lt (List.cons_lt_cons_self.mpr ?_)
    simpa using TimeOfDay.text_append_lt timeA timeB times [] []

theorem compare_eq_compare_text {a b : Timestamp} (plainA : a.isPlain = true)
    (plainB : b.isPlain = true) :
    a.compare b = Ord.compare (String.ofList a.text) (String.ofList b.text) :=
  compare_text (text_lt plainA plainB) (text_lt plainB plainA)

end Timestamp

end PlainTables
