import PlainTables.Proofs.Double.Decimal

/-!
# Whole doubles

What is nearest to a whole number is whole. So the shortest decimal of a magnitude that is not whole has a
fraction; the one of a whole magnitude of at least `10 ^ 15` has none.
-/

namespace PlainTables.Double

variable {rank n : Nat}

theorem isWhole_iff : isWhole rank = true ↔ ∃ n, units rank = n * unitsOfOne := by
  rw [isWhole, decide_eq_true_eq, ← Nat.dvd_iff_mod_eq_zero]
  exact exists_congr fun n => by rw [Nat.mul_comm]

theorem units_div (own : units rank = n * unitsOfOne) : units rank / unitsOfOne = n := by
  rw [own, Nat.mul_div_cancel _ unitsOfOne_pos]

theorem rankOfNat_of_units (finite : rank < infinityRank) (own : units rank = n * unitsOfOne) :
    rankOfNat n = rank := by
  rw [rankOfNat, ← own, roundUnits_units finite]

theorem rankOfNat_le (n : Nat) : rankOfNat n ≤ infinityRank :=
  roundUnits_le _ _

theorem ofInt_natCast (n : Nat) : ofInt n = .number false (rankOfNat n) (rankOfNat_le n) := by
  have nonneg : ¬ (n : Int) < 0 := Int.not_lt.mpr (Int.natCast_nonneg n)
  simp only [ofInt, ofUnits, nonneg, decide_false, Int.natAbs_natCast, rankOfNat]

def rankOfTwoPow (lift : Nat) : Nat :=
  binade * (exactPlaces + lift + 1)

theorem units_rankOfTwoPow (lift : Nat) : units (rankOfTwoPow lift) = 2 ^ (52 + lift) * unitsOfOne := by
  have parts := units_of_parts (exactPlaces + lift) binade_pos
  rw [Nat.add_zero, Nat.add_zero, Nat.add_comm exactPlaces, Nat.pow_add, ← unitsOfOne_eq_two_pow,
    ← Nat.mul_assoc, Nat.add_comm lift] at parts
  rw [rankOfTwoPow, parts, Nat.pow_add]
  rfl

theorem rankOfTwoPow_lt {lift : Nat} (small : lift ≤ 900) : rankOfTwoPow lift < infinityRank := by
  rw [rankOfTwoPow, infinityRank, Nat.mul_comm]
  refine Nat.mul_lt_mul_of_pos_right ?_ binade_pos
  unfold exactPlaces
  omega

/-- From the rank of the power of two on, magnitudes have no digits after the point. -/
theorem isWhole_of_le (large : rankOfTwoPow 0 ≤ rank) : isWhole rank = true := by
  have binades : exactPlaces + 1 ≤ rank / binade := by
    rw [Nat.le_div_iff_mul_le binade_pos, Nat.mul_comm]
    exact large
  obtain ⟨lift, places⟩ := Nat.exists_eq_add_of_le (Nat.le_sub_of_add_le binades)
  have notSmall : ¬ rank < binade := by
    intro small
    rw [Nat.div_eq_of_lt small] at binades
    omega
  refine isWhole_iff.mpr ⟨(binade + rank % binade) * 2 ^ lift, ?_⟩
  rw [units, if_neg notSmall, places, Nat.pow_eq, Nat.pow_add, ← unitsOfOne_eq_two_pow,
    Nat.mul_comm unitsOfOne, Nat.mul_assoc]

theorem isWhole_rankOfNat (n : Nat) : isWhole (rankOfNat n) = true := by
  by_cases small : n ≤ 2 ^ 53
  · obtain ⟨rank, finite, own⟩ := exists_rank small
    rw [rankOfNat_of_units finite own]
    exact isWhole_iff.mpr ⟨n, own⟩
  · apply isWhole_of_le
    rw [← rankOfNat_of_units (rankOfTwoPow_lt (Nat.zero_le _)) (units_rankOfTwoPow 0)]
    exact rankOfNat_mono (by omega)

/-- A number that is rounded to a whole magnitude is on the same side of another one. -/
theorem lt_iff_of_rankOfNat {m k : Nat} (finite : rank < infinityRank)
    (own : units rank = n * unitsOfOne) (rounded : rankOfNat k = rank) {mark : Nat}
    (finite' : mark < infinityRank) (own' : units mark = m * unitsOfOne) (apart : n ≠ m) :
    k < m ↔ n < m := by
  have ranks := rankOfNat_of_units finite own
  have ranks' := rankOfNat_of_units finite' own'
  have differ : rank ≠ mark := by
    rintro rfl
    exact apart (Nat.eq_of_mul_eq_mul_right unitsOfOne_pos (own.symm.trans own'))
  constructor
  · intro below
    have most := rankOfNat_mono (Nat.le_of_lt below)
    refine Nat.lt_of_not_le fun notLess => ?_
    have least := rankOfNat_mono notLess
    omega
  · intro less
    have most := rankOfNat_mono (Nat.le_of_lt less)
    refine Nat.lt_of_not_le fun notBelow => ?_
    have least := rankOfNat_mono notBelow
    omega

/-! ## Decimals without a fraction -/

def Decimal.whole (d : Decimal) : Nat :=
  d.digits * 10 ^ d.exponent.toNat

theorem Decimal.reads_whole {d : Decimal} (noFraction : 0 ≤ d.exponent) (rank : Nat) :
    (⟨d.whole, 0⟩ : Decimal).reads rank = d.reads rank := by
  rw [Decimal.whole, Decimal.reads_mul_pow, Int.zero_add, Int.toNat_of_nonneg noFraction]

theorem rankOfNat_of_reads (finite : rank < infinityRank)
    (reads : (⟨n, 0⟩ : Decimal).reads rank = true) : rankOfNat n = rank := by
  have read : ofDecimal false n 0 = _ :=
    Decimal.ofDecimal_of_reads reads false (Nat.le_of_lt finite)
  rw [ofDecimal_eq] at read
  split at read
  · next none =>
    have zero : n = 0 := none.resolve_right (by unfold sizeOf; omega)
    obtain ⟨-, rfl⟩ := number.inj read
    rw [zero, rankOfNat, Nat.zero_mul]
    exact roundUnits_zero
  · split at read
    · obtain ⟨-, rfl⟩ := number.inj read
      exact absurd finite (Nat.lt_irrefl _)
    · obtain ⟨-, rounded⟩ := number.inj read
      have whole : (0 : Int).toNat = 0 := rfl
      have places : (-(0 : Int)).toNat = 0 := rfl
      rwa [whole, places, Nat.pow_zero, Nat.mul_one] at rounded

theorem reads_of_units (finite : rank < infinityRank) (own : units rank = n * unitsOfOne) :
    (⟨n, 0⟩ : Decimal).reads rank = true := by
  have rounded : roundUnits (n * unitsOfOne) 1 = rank := rankOfNat_of_units finite own
  rcases Nat.eq_zero_or_pos n with rfl | positive
  · rw [Nat.zero_mul, roundUnits_zero] at rounded
    rw [← rounded]
    exact Decimal.reads_zero 0
  · have small : n < 10 ^ 400 := by
      have most := units_lt 2045 finite
      rw [own] at most
      have wide : 2 ^ (53 + 2045) ≤ 10 ^ 400 * unitsOfOne := by decide +kernel
      exact Nat.lt_of_mul_lt_mul_right (Nat.lt_of_lt_of_le most wide)
    have short := (Nat.length_toDigits_le_iff (b := 10) (by decide) (by decide)).mpr small
    have size : sizeOf n 0 = (Nat.toDigits 10 n).length := Int.add_zero _
    have whole : (0 : Int).toNat = 0 := rfl
    have places : (-(0 : Int)).toNat = 0 := rfl
    apply Decimal.reads_of_roundUnits (Nat.ne_zero_of_lt positive) (by omega) (by omega)
    rw [whole, places, Nat.pow_zero, Nat.mul_one, rounded]

/-! ## The shortest decimal of a whole magnitude -/

variable {up : TieRule}

theorem exponent_shortest_neg (finite : rank < infinityRank) (notWhole : isWhole rank = false) :
    (shortest up rank).exponent < 0 := by
  refine Int.not_le.mp fun noFraction => ?_
  have reads := reads_shortest up finite
  rw [← Decimal.reads_whole noFraction] at reads
  have rounded := rankOfNat_of_reads finite reads
  have isWhole := isWhole_rankOfNat (shortest up rank).whole
  rw [rounded, notWhole] at isWhole
  cases isWhole

theorem wholeDigits_of_units (own : units rank = n * unitsOfOne) (positive : 0 < n) :
    wholeDigits rank = (Nat.toDigits 10 n).length := by
  have lifted (k : Nat) : units rank * Nat.pow 10 k / unitsOfOne = n * 10 ^ k := by
    rw [own, Nat.mul_right_comm, Nat.mul_div_cancel _ unitsOfOne_pos, Nat.pow_eq]
  unfold wholeDigits
  generalize lift : 400 = k
  rw [lifted k, toDigits_mul_pow positive, List.length_append, List.length_replicate]
  omega

theorem nearestOn_zero (finite : rank < infinityRank) (own : units rank = n * unitsOfOne) :
    nearestOn up rank 0 ≠ none := by
  have reads : (⟨n, 0⟩ : Decimal).reads rank = true := reads_of_units finite own
  have digits : units rank * Nat.pow 10 (-(0 : Int)).toNat / (unitsOfOne * Nat.pow 10 (0 : Int).toNat) =
      n := by
    have none : Nat.pow 10 (-(0 : Int)).toNat = 1 := rfl
    have none' : Nat.pow 10 (0 : Int).toNat = 1 := rfl
    rw [none, none', Nat.mul_one, Nat.mul_one, units_div own]
  unfold nearestOn
  simp only [digits, reads]
  cases (⟨n + 1, 0⟩ : Decimal).reads rank with
  | true => exact Option.some_ne_none _
  | false => exact Option.some_ne_none _

theorem exponent_shortest_nonneg (finite : rank < infinityRank) (own : units rank = n * unitsOfOne)
    (large : 10 ^ 15 ≤ n) : 0 ≤ (shortest up rank).exponent := by
  have positive : 0 < n := Nat.lt_of_lt_of_le (by decide) large
  have long : 15 < (Nat.toDigits 10 n).length := length_toDigits_of_pow_le (by decide) large
  obtain ⟨d, written, rfl | ⟨i, small, near, earlier⟩⟩ := shortest_cases up rank
  · have digits : exact rank = ⟨n * 10 ^ exactPlaces, -exactPlaces⟩ := by
      rw [exact_eq, own, Nat.mul_assoc, Nat.mul_comm unitsOfOne, five_pow_mul_unitsOfOne]
    rw [written, digits, Decimal.normalize_mul_pow positive]
    exact Decimal.exponent_normalize_nonneg (by simp only; omega)
  · rw [written]
    apply Decimal.exponent_normalize_nonneg
    rw [(nearestOn_eq_some near).2, wholeDigits_of_units own positive]
    refine Int.not_lt.mp fun fraction => ?_
    -- The last place that is tried is behind the point, but the one before it is not.
    have last : i = 16 ∧ (Nat.toDigits 10 n).length = 16 := by omega
    have none := earlier 15 (by omega)
    have zero : wholeDigits rank - (15 + 1 : Nat) = 0 := by
      rw [wholeDigits_of_units own positive, last.2]
      rfl
    rw [zero] at none
    exact nearestOn_zero finite own none

end PlainTables.Double
