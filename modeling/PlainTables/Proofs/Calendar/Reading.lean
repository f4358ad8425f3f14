import PlainTables.Calendar.Pattern
import PlainTables.Proofs.Calendar.Parts
import PlainTables.Proofs.Numeral

/-!
# Reading written dates and times

The text of a date, a time of day or a timestamp is read back by the pattern in which it is written. The patterns
of the other kinds do not fit it, because another character stands behind the first digits or something is left.
-/

namespace PlainTables

namespace Numeral

theorem isDigit_of_mem_fixed {count n : Nat} {c : Char} (mem : c ∈ fixed count n) :
    c.isDigit = true := by
  induction count generalizing n with
  | zero => cases mem
  | succ count ih =>
    rcases List.mem_append.mp mem with front | last
    · exact ih front
    · rw [List.mem_singleton.mp last, Nat.isDigit_digitChar]
      exact decide_eq_true (Nat.mod_lt n (by decide))

theorem length_fixed (count n : Nat) : (fixed count n).length = count := by
  induction count generalizing n with
  | zero => rfl
  | succ count ih => rw [fixed, List.length_append, ih, List.length_singleton]

theorem ofDigitChars_fixed {count n : Nat} (bound : n < 10 ^ count) :
    Nat.ofDigitChars 10 (fixed count n) 0 = n := by
  induction count generalizing n with
  | zero =>
    obtain rfl : n = 0 := by omega
    rfl
  | succ count ih =>
    rw [Nat.pow_succ] at bound
    rw [fixed, Nat.ofDigitChars_append, ih (by omega),
      Nat.ofDigitChars_cons_digitChar_of_lt_ten (Nat.mod_lt n (by decide)), Nat.ofDigitChars_nil]
    omega

theorem fixed_add (count more n : Nat) :
    fixed (count + more) n = fixed count (n / 10 ^ more) ++ fixed more n := by
  induction more generalizing n with
  | zero => rw [Nat.pow_zero, Nat.div_one, fixed, List.append_nil, Nat.add_zero]
  | succ more ih =>
    rw [← Nat.add_assoc, fixed, ih, fixed, Nat.div_div_eq_div_mul, Nat.pow_succ', List.append_assoc]

theorem fixed_eq_cons (count n : Nat) :
    ∃ c ds, fixed (count + 1) n = c :: ds ∧ c.isDigit = true := by
  have nonempty : fixed (count + 1) n ≠ [] := by simp [fixed]
  obtain ⟨c, ds, digits⟩ := List.exists_cons_of_ne_nil nonempty
  exact ⟨c, ds, digits, isDigit_of_mem_fixed (digits ▸ List.mem_cons_self)⟩

end Numeral

theorem Date.text_eq {d : Date} (four : d.isFourDigit = true) :
    d.text = Numeral.fixed 4 d.year.toNat ++
      '-' :: (Numeral.fixed 2 d.month ++ '-' :: Numeral.fixed 2 d.day) := by
  have range : 0 ≤ d.year ∧ d.year ≤ 9999 := of_decide_eq_true four
  rw [text, yearText_eq_fixed range.1 range.2]
  exact List.append_assoc ..

theorem TimeOfDay.text_eq (t : TimeOfDay) :
    t.text = Numeral.fixed 2 t.hour ++
      ':' :: (Numeral.fixed 2 t.minute ++ ':' :: Numeral.fixed 2 t.writtenSecond) :=
  List.append_assoc ..

namespace Calendar

/-! ## Numbers -/

/-- Digits are read up to the width or to something else. -/
theorem readDigits_append {width : Nat} {ds rest : List Char} (digits : ∀ c ∈ ds, c.isDigit = true)
    (nonempty : ds ≠ []) (fits : ds.length ≤ width)
    (ends : ds.length = width ∨ ∀ c ∈ rest.head?, c.isDigit = false) :
    readDigits width (ds ++ rest) = some (Nat.ofDigitChars 10 ds 0, rest) := by
  have stops : (rest.take (width - ds.length)).takeWhile Char.isDigit = [] := by
    rcases ends with full | stop
    · rw [full, Nat.sub_self]
      rfl
    · cases rest with
      | nil => rw [List.take_nil, List.takeWhile_nil]
      | cons c rest =>
        cases width - ds.length with
        | zero => rfl
        | succ n => rw [List.take_succ_cons, List.takeWhile_cons, stop c rfl, if_neg Bool.false_ne_true]
  have taken : ((ds ++ rest).take width).takeWhile Char.isDigit = ds := by
    rw [List.take_append, List.take_of_length_le fits, List.takeWhile_append_of_pos digits, stops,
      List.append_nil]
  have some : ds.isEmpty = false := List.isEmpty_eq_false_iff.mpr nonempty
  simp only [readDigits, taken, some, List.drop_left, Bool.false_eq_true, if_false]

theorem readNumber_append {part : Part} {ds rest : List Char} (digits : ∀ c ∈ ds, c.isDigit = true)
    (nonempty : ds ≠ []) (fits : ds.length ≤ part.width)
    (ends : ds.length = part.width ∨ ∀ c ∈ rest.head?, c.isDigit = false) :
    readNumber part (ds ++ rest) = some ((Nat.ofDigitChars 10 ds 0 : Int), rest) := by
  have read := readDigits_append digits nonempty fits ends
  obtain ⟨c, t, rfl⟩ := List.exists_cons_of_ne_nil nonempty
  have digit : c.isDigit = true := digits c List.mem_cons_self
  have kept : Text.trimLeft (c :: t ++ rest) = c :: t ++ rest :=
    Text.trimLeft_cons_of_not_isBlank (Numeral.not_isBlank_of_isDigit digit)
  unfold readNumber
  rw [kept]
  -- There is no sign in front of a digit.
  split
  · next same => exact absurd (List.cons.inj same).1 (Numeral.ne_of_isDigit digit (by decide))
  · next same => exact absurd (List.cons.inj same).1 (Numeral.ne_of_isDigit digit (by decide))
  · rw [read]
    rfl

variable {p q : Parts} {items : List Item} {rest : List Char}

theorem readItems_number (part : Part) {n : Nat} (bound : n < 10 ^ part.width)
    (entered : p.set part n = some q) (items : List Item) (rest : List Char) :
    readItems (.number part :: items) p (Numeral.fixed part.width n ++ rest) =
      readItems items q rest := by
  have nonempty : Numeral.fixed part.width n ≠ [] := by
    rw [← List.length_pos_iff, Numeral.length_fixed]
    cases part <;> decide
  have read : readNumber part (Numeral.fixed part.width n ++ rest) = _ :=
    readNumber_append (fun _ => Numeral.isDigit_of_mem_fixed) nonempty (Numeral.length_fixed _ n).le
      (.inl (Numeral.length_fixed _ n))
  rw [Numeral.ofDigitChars_fixed bound] at read
  simp only [readItems, Item.read, read, Option.bind_some, entered, Option.map_some]

theorem readItems_literal (c : Char) (items : List Item) (p : Parts) (rest : List Char) :
    readItems (.literal c :: items) p (c :: rest) = readItems items p rest := by
  simp only [readItems, Item.read, if_true, Option.bind_some]

/-- A number with another character behind it than the pattern wants is not read. -/
theorem readItems_eq_none {part : Part} {c : Char} {n : Int} {s : List Char}
    (read : readNumber part s = some (n, rest)) (other : rest.head? ≠ some c) (p : Parts)
    (items : List Item) : readItems (.number part :: .literal c :: items) p s = none := by
  have fails (q : Parts) : readItems (.literal c :: items) q rest = none := by
    cases rest with
    | nil => rfl
    | cons d rest =>
      have differs : c ≠ d := fun same => other (congrArg some same.symm)
      simp only [readItems, Item.read, if_neg differs, Option.bind_none]
  simp only [readItems, Item.read, read, Option.bind_some]
  cases p.set part n with
  | none => rfl
  | some q => exact fails q

/-! ## Dates and times of day -/

def dateItems : List Item :=
  [.number .year, .literal '-', .number .month, .literal '-', .number .day]

def timeItems : List Item :=
  [.number .hour, .literal ':', .number .minute, .literal ':', .number .second]

theorem readItems_date {d : Date} (four : d.isFourDigit = true) (items : List Item)
    (rest : List Char) :
    readItems (dateItems ++ items) {} (d.text ++ rest) = readItems items { date := .ofDate d } rest := by
  have range : 0 ≤ d.year ∧ d.year ≤ 9999 := of_decide_eq_true four
  have year : Parts.set {} .year d.year.toNat = some { date := { year := some d.year } } := by
    rw [Int.toNat_of_nonneg range.1]
    exact Parts.set_year d rfl
  have bound : d.year.toNat < 10 ^ 4 := by omega
  obtain ⟨bound', bound''⟩ := d.month_and_day_lt
  rw [Date.text_eq four]
  simp only [List.append_assoc, List.cons_append]
  calc readItems (dateItems ++ items) {} _ = _ := readItems_number .year bound year _ _
    _ = _ := readItems_literal ..
    _ = _ := readItems_number .month bound' (Parts.set_month d rfl) _ _
    _ = _ := readItems_literal ..
    _ = _ := readItems_number .day bound'' (Parts.set_day d rfl) items rest

theorem readItems_time {p : Parts} (fresh : p.time = {}) (t : TimeOfDay) (items : List Item)
    (rest : List Char) :
    readItems (timeItems ++ items) p (t.text ++ rest) =
      readItems items { p with time := .ofTime t } rest := by
  have valid := t.valid
  simp only [isTime, Bool.and_eq_true, Bool.or_eq_true, decide_eq_true_eq] at valid
  have bound : t.hour < 10 ^ 2 := by omega
  have bound' : t.minute < 10 ^ 2 := by omega
  have bound'' : t.writtenSecond < 10 ^ 2 := by
    unfold TimeOfDay.writtenSecond
    omega
  obtain ⟨date, time, unixSeconds, offset⟩ := p
  obtain rfl : time = {} := fresh
  rw [t.text_eq]
  simp only [List.append_assoc, List.cons_append]
  calc readItems (timeItems ++ items) _ _ = _ := readItems_number .hour bound (Parts.set_hour t rfl rfl) _ _
    _ = _ := readItems_literal ..
    _ = _ := readItems_number .minute bound' (Parts.set_minute t rfl) _ _
    _ = _ := readItems_literal ..
    _ = _ := readItems_number .second bound'' (Parts.set_second t rfl) items rest

end Calendar

open Calendar

namespace Date

theorem read?_eq (s : List Char) :
    read? "%Y-%m-%d" (String.ofList s) = (readItems dateItems {} s).bind fun p => p.date.toDate.toOption := by
  have items : Item.ofPattern "%Y-%m-%d".toList = dateItems := by decide
  rw [read?, readParts, items, String.toList_ofList]

theorem read?_text {d : Date} (four : d.isFourDigit = true) :
    read? "%Y-%m-%d" (String.ofList d.text) = some d := by
  have read := readItems_date four [] []
  rw [List.append_nil, List.append_nil] at read
  rw [read?_eq, read]
  exact congrArg Except.toOption (DateParts.toDate_ofDate d)

/-- A timestamp goes on behind its date. -/
theorem read?_timestamp {t : Timestamp} (plain : t.isPlain = true) :
    read? "%Y-%m-%d" (String.ofList t.text) = none := by
  have read := readItems_date (Bool.and_eq_true_iff.mp plain).1 [] (' ' :: t.time.text)
  rw [List.append_nil] at read
  rw [read?_eq, Timestamp.text, read]
  rfl

/-- Behind the first number of a time of day there is no hyphen. -/
theorem read?_time (t : TimeOfDay) : read? "%Y-%m-%d" (String.ofList t.text) = none := by
  have year : ∃ n, readNumber .year t.text =
      some (n, ':' :: (Numeral.fixed 2 t.minute ++ ':' :: Numeral.fixed 2 t.writtenSecond)) := by
    rw [t.text_eq]
    exact ⟨_, readNumber_append (fun _ => Numeral.isDigit_of_mem_fixed) (by simp [Numeral.fixed])
      (by simp [Numeral.length_fixed, Part.width]) (.inr (by simp))⟩
  obtain ⟨n, year⟩ := year
  rw [read?_eq, dateItems, readItems_eq_none year (by simp)]
  rfl

end Date

namespace TimeOfDay

theorem read?_eq (s : List Char) :
    read? "%H:%M:%S" (String.ofList s) = (readItems timeItems {} s).bind fun p => p.time.toTime.toOption := by
  have items : Item.ofPattern "%H:%M:%S".toList = timeItems := by decide
  rw [read?, readParts, items, String.toList_ofList]

theorem read?_text {t : TimeOfDay} (whole : t.isWholeSecond = true) :
    read? "%H:%M:%S" (String.ofList t.text) = some t := by
  have read := readItems_time (p := {}) rfl t [] []
  rw [List.append_nil, List.append_nil] at read
  rw [read?_eq, read]
  exact congrArg Except.toOption (TimeParts.toTime_ofTime whole)

/-- Behind the first two digits of a year there is no colon. -/
theorem read?_timestamp {t : Timestamp} (plain : t.isPlain = true) :
    read? "%H:%M:%S" (String.ofList t.text) = none := by
  have four := (Bool.and_eq_true_iff.mp plain).1
  obtain ⟨c, ds, digits, digit⟩ := Numeral.fixed_eq_cons 1 t.date.year.toNat
  have hour : ∃ n rest, readNumber .hour t.text = some (n, c :: rest) := by
    rw [Timestamp.text, Date.text_eq four, Numeral.fixed_add 2 2, List.append_assoc, List.append_assoc,
      digits]
    exact ⟨_, _, readNumber_append (fun _ => Numeral.isDigit_of_mem_fixed) (by simp [Numeral.fixed])
      (Numeral.length_fixed 2 _).le (.inl (Numeral.length_fixed 2 _))⟩
  obtain ⟨n, rest, hour⟩ := hour
  have other : (c :: rest).head? ≠ some ':' := by
    rw [List.head?_cons]
    exact fun same => Numeral.ne_of_isDigit digit (by decide) (Option.some.inj same)
  rw [read?_eq, timeItems, readItems_eq_none hour other]
  rfl

end TimeOfDay

namespace Timestamp

theorem read?_eq (s : List Char) :
    read? "%Y-%m-%d %H:%M:%S" (String.ofList s) =
      (readItems (dateItems ++ .blanks :: timeItems) {} s).bind fun p => p.toTimestamp.toOption := by
  have items : Item.ofPattern "%Y-%m-%d %H:%M:%S".toList = dateItems ++ .blanks :: timeItems := by
    decide
  rw [read?, readParts, items, String.toList_ofList]

theorem read?_text {t : Timestamp} (plain : t.isPlain = true) :
    read? "%Y-%m-%d %H:%M:%S" (String.ofList t.text) = some t := by
  obtain ⟨four, whole⟩ := Bool.and_eq_true_iff.mp plain
  have trimmed : Text.trimLeft (' ' :: t.time.text) = t.time.text := by
    obtain ⟨c, ds, digits, digit⟩ := Numeral.fixed_eq_cons 1 t.time.hour
    rw [t.time.text_eq, digits]
    exact Text.trimLeft_cons_of_not_isBlank (Numeral.not_isBlank_of_isDigit digit)
  have time := readItems_time (p := { date := .ofDate t.date }) rfl t.time [] []
  rw [List.append_nil, List.append_nil] at time
  have read : readItems (dateItems ++ .blanks :: timeItems) {} t.text =
      some { date := .ofDate t.date, time := .ofTime t.time } := by
    rw [Timestamp.text, readItems_date four, readItems, Item.read, trimmed]
    exact time
  rw [read?_eq, read, Option.bind_some, Parts.toTimestamp, DateParts.toDate_ofDate,
    TimeParts.toTime_ofTime whole]
  rfl

end Timestamp

end PlainTables
