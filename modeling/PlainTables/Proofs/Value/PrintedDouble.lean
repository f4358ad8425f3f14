import PlainTables.Proofs.Double.Whole
import PlainTables.Proofs.Value.ReadBack

/-!
# Reading printed doubles

A printed double is a numeral: digits, and digits behind a point unless the number is whole and at least `10 ^ 15`.
Read as a double it is the same number again. It is read as an integer if there is no point and the number
has 64 bits.
-/

namespace PlainTables

namespace Double

/-! ## Numerals -/

def pointed (whole fraction : List Char) : List Char :=
  if fraction = [] then whole else whole ++ '.' :: fraction

def signed (negative : Bool) (magnitude : List Char) : List Char :=
  if negative then '-' :: magnitude else magnitude

theorem splitSign_signed (negative : Bool) {c : Char} (digit : c.isDigit = true) (s : List Char) :
    splitSign (signed negative (c :: s)) = (negative, c :: s) := by
  cases negative with
  | true => rfl
  | false => exact Numeral.splitSign_of_isDigit digit s

/-- The digits before and behind the point are those of a decimal that reads back as the magnitude. -/
structure Spells (whole fraction : List Char) (rank : Nat) : Prop where
  digits : ∀ c ∈ whole ++ fraction, c.isDigit = true
  nonempty : whole ≠ []
  reads : (⟨Nat.ofDigitChars 10 (whole ++ fraction) 0, -fraction.length⟩ : Decimal).reads rank = true

namespace Spells

variable {whole fraction : List Char} {rank : Nat} (spells : Spells whole fraction rank)

include spells

theorem splitSign (negative : Bool) :
    Double.splitSign (signed negative (pointed whole fraction)) = (negative, pointed whole fraction) := by
  obtain ⟨c, t, rfl⟩ := List.exists_cons_of_ne_nil spells.nonempty
  have digit : c.isDigit = true := spells.digits c List.mem_cons_self
  have start : ∃ s, pointed (c :: t) fraction = c :: s := by
    unfold pointed
    split <;> exact ⟨_, rfl⟩
  obtain ⟨s, start⟩ := start
  rw [start]
  exact splitSign_signed negative digit s

theorem not_isBlank (negative : Bool) :
    ∀ c ∈ signed negative (pointed whole fraction), Text.isBlank c = false := by
  have printing : ∀ c ∈ pointed whole fraction, Text.isBlank c = false := by
    intro c mem
    have kinds : c = '.' ∨ c ∈ whole ++ fraction := by
      unfold pointed at mem
      split at mem
      · exact .inr (List.mem_append_left _ mem)
      · rcases List.mem_append.mp mem with before | behind
        · exact .inr (List.mem_append_left _ before)
        · exact (List.mem_cons.mp behind).imp_right (List.mem_append_right _)
    rcases kinds with rfl | digit
    · decide
    · exact Numeral.not_isBlank_of_isDigit (spells.digits c digit)
  cases negative with
  | true => exact List.forall_mem_cons.mpr ⟨by decide, printing⟩
  | false => exact printing

theorem read? (negative : Bool) (bounded : rank ≤ infinityRank) :
    Double.read? (signed negative (pointed whole fraction)) = some (.number negative rank bounded) := by
  have before : ∀ c ∈ whole, c.isDigit = true := fun c mem =>
    spells.digits c (List.mem_append_left _ mem)
  have behind : ∀ c ∈ fraction, c.isDigit = true := fun c mem =>
    spells.digits c (List.mem_append_right _ mem)
  have present : whole.isEmpty = false := List.isEmpty_eq_false_iff.mpr spells.nonempty
  have value : ofDecimal negative (Nat.ofDigitChars 10 (whole ++ fraction) 0) (0 - fraction.length) =
      .number negative rank bounded := by
    rw [Int.zero_sub]
    exact Decimal.ofDecimal_of_reads spells.reads negative bounded
  rw [Double.read?, spells.splitSign]
  simp only
  unfold pointed
  split
  · next none =>
    subst none
    simp only [List.takeWhile_eq_self_iff.mpr before, List.dropWhile_eq_nil_iff.mpr before, present,
      Bool.false_and, Bool.false_eq_true, if_false, readExponent?, Option.map_some, value]
  · have front : (whole ++ '.' :: fraction).takeWhile Char.isDigit = whole := by
      rw [List.takeWhile_append_of_pos before, List.takeWhile_cons_of_neg (by decide), List.append_nil]
    have rest : (whole ++ '.' :: fraction).dropWhile Char.isDigit = '.' :: fraction := by
      rw [List.dropWhile_append_of_pos before, List.dropWhile_cons_of_neg (by decide)]
    simp only [front, rest, List.takeWhile_eq_self_iff.mpr behind, List.dropWhile_eq_nil_iff.mpr behind,
      present, Bool.false_and, Bool.false_eq_true, if_false, readExponent?, Option.map_some, value]

theorem readInt64?_of_fraction (negative : Bool) (point : fraction ≠ []) :
    Numeral.readInt64? (signed negative (pointed whole fraction)) = none := by
  have notAll : (whole ++ '.' :: fraction).all Char.isDigit = false := by
    rw [List.all_append, List.all_cons]
    simp
  rw [Numeral.readInt64?, spells.splitSign]
  simp only [pointed, if_neg point, notAll, Bool.not_false, Bool.or_true, if_true]

/-- Without a point the number is nearest to the magnitude, and it is read if it has 64 bits. -/
theorem isSome_readInt64? (negative : Bool) (none : fraction = []) :
    (Numeral.readInt64? (signed negative (pointed whole fraction))).isSome =
      if negative then decide (Nat.ofDigitChars 10 whole 0 ≤ 2 ^ 63)
      else decide (Nat.ofDigitChars 10 whole 0 < 2 ^ 63) := by
  have all : whole.all Char.isDigit = true :=
    List.all_eq_true.mpr fun c mem => spells.digits c (List.mem_append_left _ mem)
  have present : whole.isEmpty = false := List.isEmpty_eq_false_iff.mpr spells.nonempty
  have least : Int64.minValue.toInt = -2 ^ 63 := rfl
  have most : Int64.maxValue.toInt = 2 ^ 63 - 1 := rfl
  rw [Numeral.readInt64?, spells.splitSign]
  simp only [pointed, if_pos none, all, present, Bool.not_true, Bool.or_false, Bool.false_eq_true,
    if_false, least, most]
  generalize Nat.ofDigitChars 10 whole 0 = n
  cases negative with
  | true =>
    simp only [if_true]
    split
    · next bounds => exact (decide_eq_true (by omega)).symm
    · next bounds => exact (decide_eq_false (by omega)).symm
  | false =>
    simp only [Bool.false_eq_true, if_false]
    split
    · next bounds => exact (decide_eq_true (by omega)).symm
    · next bounds => exact (decide_eq_false (by omega)).symm

end Spells

/-! ## Printed magnitudes -/

variable {rank : Nat}

theorem isDigit_zeros (count : Nat) : ∀ c ∈ List.replicate count '0', c.isDigit = true := by
  intro c mem
  rw [List.eq_of_mem_replicate mem]
  rfl

section

variable {ds : List Char} {n places : Nat} (digits : ∀ c ∈ ds, c.isDigit = true)
  (value : Nat.ofDigitChars 10 ds 0 = n)

include digits value

theorem spells_followed_by_zeros (nonempty : ds ≠ [])
    (reads : (⟨n, places⟩ : Decimal).reads rank = true) :
    Spells (ds ++ List.replicate places '0') [] rank where
  digits := by
    rw [List.append_nil]
    exact List.forall_mem_append.mpr ⟨digits, isDigit_zeros places⟩
  nonempty := List.append_ne_nil_of_left_ne_nil nonempty _
  reads := by
    have same := Decimal.reads_mul_pow n places 0 rank
    rw [List.append_nil, Nat.ofDigitChars_append, value, Nat.ofDigitChars_replicate_zero, Nat.mul_comm]
    rw [Int.zero_add] at same
    exact same.trans reads

theorem spells_around_point (inside : places < ds.length)
    (reads : (⟨n, -places⟩ : Decimal).reads rank = true) :
    Spells (ds.take (ds.length - places)) (ds.drop (ds.length - places)) rank where
  digits := by
    rw [List.take_append_drop]
    exact digits
  nonempty := List.ne_nil_of_length_pos (by rw [List.length_take]; omega)
  reads := by
    have count : ds.length - (ds.length - places) = places := by omega
    rw [List.take_append_drop, value, List.length_drop, count]
    exact reads

theorem spells_behind_zeros (outside : ds.length ≤ places)
    (reads : (⟨n, -places⟩ : Decimal).reads rank = true) :
    Spells ['0'] (List.replicate (places - ds.length) '0' ++ ds) rank where
  digits := by
    refine List.forall_mem_append.mpr ⟨isDigit_zeros 1, List.forall_mem_append.mpr ⟨?_, digits⟩⟩
    exact isDigit_zeros _
  nonempty := List.cons_ne_nil _ _
  reads := by
    have zero : Nat.ofDigitChars 10 ['0'] 0 = 0 := rfl
    rw [Nat.ofDigitChars_append, zero, Nat.ofDigitChars_append, Nat.ofDigitChars_replicate_zero,
      Nat.mul_zero, value, List.length_append, List.length_replicate, Nat.sub_add_cancel outside]
    exact reads

end

/-- A decimal that is written out is a numeral, without a point if the decimal has no fraction. -/
theorem exists_spells_positional {d : Decimal} (reads : d.reads rank = true) :
    ∃ whole fraction, d.positional = pointed whole fraction ∧ Spells whole fraction rank ∧
      (fraction = [] ↔ 0 ≤ d.exponent) := by
  obtain ⟨n, exponent⟩ := d
  obtain ⟨ds, written⟩ : ∃ ds, Nat.toDigits 10 n = ds := ⟨_, rfl⟩
  have digits : ∀ c ∈ ds, c.isDigit = true := fun c mem => Numeral.isDigit_of_mem (written ▸ mem)
  have value : Nat.ofDigitChars 10 ds 0 = n := written ▸ Nat.ofDigitChars_ten_toDigits
  have nonempty : ds ≠ [] := written ▸ Nat.toDigits_ne_nil
  simp only [Decimal.positional, written]
  rcases Int.eq_nat_or_neg exponent with ⟨places, rfl | rfl⟩
  · have noFraction : (-(places : Int)).toNat = 0 := by omega
    refine ⟨_, [], ?_, spells_followed_by_zeros digits value nonempty reads,
      iff_of_true rfl (Int.natCast_nonneg places)⟩
    simp only [noFraction, if_true, Int.toNat_natCast, pointed]
  · rw [Int.neg_neg, Int.toNat_natCast]
    rcases Nat.eq_zero_or_pos places with rfl | present
    · refine ⟨_, [], ?_, spells_followed_by_zeros digits value nonempty reads, iff_of_true rfl (Int.le_refl 0)⟩
      simp only [if_true, pointed]
      rfl
    · have negative : ¬ 0 ≤ -(places : Int) := by omega
      rw [if_neg (Nat.ne_zero_of_lt present)]
      by_cases inside : places < ds.length
      · have fraction : ds.drop (ds.length - places) ≠ [] :=
          List.ne_nil_of_length_pos (by rw [List.length_drop]; omega)
        refine ⟨_, _, ?_, spells_around_point digits value inside reads, iff_of_false fraction negative⟩
        rw [if_pos inside, pointed, if_neg fraction]
      · have fraction : List.replicate (places - ds.length) '0' ++ ds ≠ [] :=
          List.append_ne_nil_of_right_ne_nil _ nonempty
        refine ⟨_, _, ?_, spells_behind_zeros digits value (Nat.le_of_not_lt inside) reads,
          iff_of_false fraction negative⟩
        rw [if_neg inside, pointed, if_neg fraction]
        rfl

/-- A printed magnitude is a numeral without a point if it is whole and at least `10 ^ 15`, and with
one otherwise. -/
theorem exists_spells (finite : rank < infinityRank) :
    ∃ whole fraction, magnitudeText rank = pointed whole fraction ∧ Spells whole fraction rank ∧
      (fraction = [] ↔ isWhole rank = true ∧ 10 ^ 15 ≤ units rank / unitsOfOne) := by
  by_cases short : (isWhole rank && decide (units rank / unitsOfOne < Nat.pow 10 15)) = true
  · obtain ⟨isWhole, small⟩ := Bool.and_eq_true_iff.mp short
    obtain ⟨n, own⟩ := isWhole_iff.mp isWhole
    have number : units rank / unitsOfOne = n := units_div own
    refine ⟨Nat.toDigits 10 n, ['0'], ?_, ⟨?_, Nat.toDigits_ne_nil, ?_⟩, ?_⟩
    · rw [number] at short
      simp only [magnitudeText, number, short, if_true]
      rfl
    · exact List.forall_mem_append.mpr ⟨fun _ => Numeral.isDigit_of_mem, isDigit_zeros 1⟩
    · have value : Nat.ofDigitChars 10 (Nat.toDigits 10 n ++ ['0']) 0 = n * 10 ^ 1 := by
        rw [Nat.ofDigitChars_append, Nat.ofDigitChars_ten_toDigits, Nat.mul_comm]
        exact Nat.ofDigitChars_replicate_zero (n := 1)
      rw [value, Decimal.reads_mul_pow]
      exact reads_of_units finite own
    · exact iff_of_false (List.cons_ne_nil _ _) fun large =>
        absurd large.2 (Nat.not_le.mpr (of_decide_eq_true small))
  · have written : magnitudeText rank = (shortest (fun _ => true) rank).positional := by
      simp only [magnitudeText, short, Bool.false_eq_true, if_false]
    obtain ⟨whole, fraction, text, spells, noPoint⟩ :=
      exists_spells_positional (reads_shortest (fun _ => true) finite)
    refine ⟨whole, fraction, written.trans text, spells, noPoint.trans ?_⟩
    rw [Bool.and_eq_true, decide_eq_true_eq, not_and, Nat.not_lt] at short
    constructor
    · intro noFraction
      have isWhole : isWhole rank = true := by
        rw [← Bool.not_eq_false]
        intro notWhole
        exact absurd (exponent_shortest_neg finite notWhole) (Int.not_lt.mpr noFraction)
      exact ⟨isWhole, short isWhole⟩
    · rintro ⟨isWhole, large⟩
      obtain ⟨n, own⟩ := isWhole_iff.mp isWhole
      exact exponent_shortest_nonneg finite own (units_div own ▸ large)

/-! ## Doubles that are printed as integers -/

/-- The number is whole, at least `10 ^ 15` and below the 63rd power of two, whatever its sign. -/
def isLongWhole : Double → Bool
  | nan => false
  | number _ rank _ =>
    isWhole rank && decide (10 ^ 15 ≤ units rank / unitsOfOne) &&
      decide (units rank / unitsOfOne < 2 ^ 63)

theorem units_rankOfTwoPow_eleven : units (rankOfTwoPow 11) = 2 ^ 63 * unitsOfOne := by
  have whole := units_rankOfTwoPow 11
  rwa [show 52 + 11 = 63 from rfl] at whole

theorem rankOfTwoPow_eleven_lt : rankOfTwoPow 11 < infinityRank :=
  rankOfTwoPow_lt (by decide)

theorem magnitudeText_of_found {d : Decimal}
    (long : (isWhole rank && decide (units rank / unitsOfOne < Nat.pow 10 15)) = false)
    (last : d.digits % 10 ≠ 0)
    (found : (List.range 17).findSome?
      (fun n => nearestOn (fun _ => true) rank (wholeDigits rank - (n + 1 : Nat))) = some d) :
    magnitudeText rank = d.positional := by
  simp only [magnitudeText, long, Bool.false_eq_true, if_false, shortest_of_found last found]

/-- The shortest decimal of the 63rd power of two is above it. -/
theorem magnitudeText_rankOfTwoPow_eleven :
    magnitudeText (rankOfTwoPow 11) = "9223372036854776000".toList := by
  have written : magnitudeText (rankOfTwoPow 11) = (⟨9223372036854776, 3⟩ : Decimal).positional :=
    magnitudeText_of_found (by decide +kernel) (by decide) (by decide +kernel)
  rw [written]
  decide +kernel

/-- A numeral for another magnitude is on the same side of the 63rd power of two. -/
theorem bounds_of_rankOfNat {n k : Nat} (finite : rank < infinityRank)
    (own : units rank = n * unitsOfOne) (rounded : rankOfNat k = rank) (apart : n ≠ 2 ^ 63) :
    (k < 2 ^ 63 ↔ n < 2 ^ 63) ∧ (k ≤ 2 ^ 63 ↔ n < 2 ^ 63) := by
  have side := lt_iff_of_rankOfNat finite own rounded rankOfTwoPow_eleven_lt
    units_rankOfTwoPow_eleven apart
  have differ : k ≠ 2 ^ 63 := by
    rintro rfl
    rw [rankOfNat_of_units rankOfTwoPow_eleven_lt units_rankOfTwoPow_eleven] at rounded
    rw [← rounded, units_rankOfTwoPow_eleven] at own
    exact apart (Nat.eq_of_mul_eq_mul_right unitsOfOne_pos own).symm
  exact ⟨side, by omega⟩

variable {negative : Bool} {bounded : rank ≤ infinityRank}

theorem text_of_finite (finite : rank < infinityRank) :
    (number negative rank bounded).text = signed negative (magnitudeText rank) := by
  simp only [text, if_neg (Nat.ne_of_lt finite)]
  rfl

/-- The text of a finite number is read as an integer if the number is long and whole, and otherwise not. -/
theorem isSome_readInt64?_text (finite : rank < infinityRank) :
    (Numeral.readInt64? (number negative rank bounded).text).isSome =
      (number negative rank bounded).isLongWhole := by
  obtain ⟨whole, fraction, text, spells, noPoint⟩ := exists_spells finite
  rw [text_of_finite finite, text, isLongWhole]
  by_cases point : fraction = []
  · obtain ⟨isWhole, large⟩ := noPoint.mp point
    obtain ⟨n, own⟩ := isWhole_iff.mp isWhole
    have number : units rank / unitsOfOne = n := units_div own
    rw [number] at large
    rw [isWhole, number, decide_eq_true large, Bool.true_and, Bool.true_and]
    by_cases border : n = 2 ^ 63
    · have same : rank = rankOfTwoPow 11 := by
        rw [← roundUnits_units finite, ← roundUnits_units rankOfTwoPow_eleven_lt, own,
          units_rankOfTwoPow_eleven, border]
      rw [← text, same, magnitudeText_rankOfTwoPow_eleven, border]
      cases negative <;> decide +kernel
    · have reads := spells.reads
      rw [point, List.append_nil] at reads
      obtain ⟨below, upTo⟩ := bounds_of_rankOfNat finite own (rankOfNat_of_reads finite reads) border
      rw [spells.isSome_readInt64? negative point]
      simp only [below, upTo, ite_self]
  · have short : (isWhole rank && decide (10 ^ 15 ≤ units rank / unitsOfOne)) = false := by
      rw [← Bool.not_eq_true, Bool.and_eq_true, decide_eq_true_eq]
      exact fun long => point (noPoint.mpr long)
    rw [spells.readInt64?_of_fraction negative point, short, Bool.false_and]
    rfl

end Double

theorem Value.display_double (d : Double) : (double d).display = String.ofList d.text :=
  rfl

namespace Formats

/-- The text of a finite double is read back as this double. It is found to be of this type, unless the
double is long and whole: then it has no point and is found to be an integer. -/
theorem reads_back_double (c : Formats) (d : Double) (finite : d.isFinite = true) :
    c.coerce (Value.double d).display .double = .ok (.double d) ∧
      c.infer (Value.double d).display = if d.isLongWhole then .integer else .double := by
  cases d with
  | nan => cases finite
  | number negative rank bounded =>
    have finite : rank < infinityRank := of_decide_eq_true finite
    obtain ⟨whole, fraction, text, spells, -⟩ := Double.exists_spells finite
    have read := spells.read? negative bounded
    have printing := spells.not_isBlank negative
    have shown : (Double.number negative rank bounded).text = _ := Double.text_of_finite finite
    have asInteger : (Numeral.readInt64? (Double.number negative rank bounded).text).isSome = _ :=
      Double.isSome_readInt64?_text finite
    rw [← text, ← shown] at read printing
    generalize Double.number negative rank bounded = d at read printing asInteger ⊢
    have kept : Text.trimmed (Value.double d).display = (Value.double d).display := by
      rw [Value.display_double, Text.trimmed, String.toList_ofList, Text.trim_of_printing printing]
    have nonempty : (Value.double d).display.isEmpty = false := by
      have present : d.text ≠ [] := by
        intro none
        rw [none] at read
        cases read
      simpa [Value.display_double] using present
    have asDouble : c.read? (Value.double d).display .double = some (.double d) := by
      rw [read?, Value.display_double, String.toList_ofList, read, Option.map_some]
    have integers : (c.read? (Value.double d).display .integer).isSome = d.isLongWhole := by
      rw [read?, Value.display_double, String.toList_ofList, Option.isSome_map, asInteger]
    refine ⟨coerce_eq kept nonempty (by rintro ⟨⟩) asDouble, ?_⟩
    split
    · next long =>
      rw [long] at integers
      obtain ⟨v, asInteger⟩ := Option.isSome_iff_exists.mp integers
      have order : DataType.inferenceOrder = [] ++ .integer :: DataType.inferenceOrder.tail := rfl
      exact infer_eq kept order (List.forall_mem_nil _) asInteger
    · next short =>
      rw [Bool.not_eq_true] at short
      rw [short, Option.isSome_eq_false_iff, Option.isNone_iff_eq_none] at integers
      have order : DataType.inferenceOrder = [.integer] ++ .double :: DataType.inferenceOrder.drop 2 := rfl
      exact infer_eq kept order (List.forall_mem_singleton.mpr integers) asDouble

/-- A whole number below `10 ^ 15` is printed with a point. -/
theorem reads_back_double_forty_two :
    (Double.ofInt (-42)).isFinite = true ∧ (Value.double (Double.ofInt (-42))).display = "-42.0" ∧
      coerce {} "-42.0" .double = .ok (.double (Double.ofInt (-42))) ∧ infer {} "-42.0" = .double := by
  have finite : (Double.ofInt (-42)).isFinite = true := by decide +kernel
  have shown : (Value.double (Double.ofInt (-42))).display = "-42.0" := by decide +kernel
  have short : (Double.ofInt (-42)).isLongWhole = false := by decide +kernel
  have read := reads_back_double {} (Double.ofInt (-42)) finite
  rw [shown, short] at read
  exact ⟨finite, shown, read.1, read.2⟩

/-- The double `10 ^ 15` is printed like the integer, and its text is found to be an integer. -/
theorem long_whole_double_infers_integer :
    (Double.ofInt (10 ^ 15 : Nat)).isFinite = true ∧
      (Value.double (Double.ofInt (10 ^ 15 : Nat))).display = "1000000000000000" ∧
      (Value.integer 1000000000000000).display = "1000000000000000" ∧
      infer {} "1000000000000000" = .integer := by
  have written : Double.magnitudeText (Double.rankOfNat (10 ^ 15)) =
      (⟨1, 15⟩ : Double.Decimal).positional :=
    Double.magnitudeText_of_found (by decide +kernel) (by decide) (by decide +kernel)
  have finite : Double.rankOfNat (10 ^ 15) < infinityRank := by decide +kernel
  have shown : (Double.ofInt (10 ^ 15 : Nat)).text = (⟨1, 15⟩ : Double.Decimal).positional := by
    rw [Double.ofInt_natCast, Double.text_of_finite finite, written]
    rfl
  refine ⟨by decide +kernel, ?_, by decide +kernel, by decide +kernel⟩
  rw [Value.display_double, shown]
  decide +kernel

end Formats

end PlainTables
