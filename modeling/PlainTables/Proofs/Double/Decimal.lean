import PlainTables.Double.Decimal
import PlainTables.Proofs.Double.Rounding

/-!
# Decimals of doubles

A decimal is rounded by its value alone: zeros at the end of its digits make no difference. The decimal with the
fewest digits that is found for a finite magnitude reads back as this magnitude.
-/

namespace PlainTables.Double

/-! ## Zeros at the end -/

theorem toDigits_mul_ten {n : Nat} (positive : 0 < n) :
    Nat.toDigits 10 (n * 10) = Nat.toDigits 10 n ++ ['0'] := by
  have joined := Nat.toDigits_append_toDigits (b := 10) (d := 0) (by decide) positive (by decide)
  rw [Nat.mul_comm, ← Nat.add_zero (10 * n), ← joined]
  rfl

theorem toDigits_mul_pow {n : Nat} (positive : 0 < n) (k : Nat) :
    Nat.toDigits 10 (n * 10 ^ k) = Nat.toDigits 10 n ++ List.replicate k '0' := by
  induction k with
  | zero => simp
  | succ k ih =>
    rw [Nat.pow_succ, ← Nat.mul_assoc, toDigits_mul_ten (Nat.mul_pos positive (Nat.pow_pos (by decide))),
      ih, List.append_assoc, ← List.replicate_succ']

theorem length_toDigits_of_pow_le {n k : Nat} (positive : 0 < k) (le : 10 ^ k ≤ n) :
    k < (Nat.toDigits 10 n).length := by
  have digits := Nat.length_toDigits_le_iff (b := 10) (n := n) (by decide) positive
  omega

/-! ## Rounding by value -/

theorem roundHalfEven_mul_right (p q : Nat) {k : Nat} (positive : 0 < k) :
    roundHalfEven (p * k) (q * k) = roundHalfEven p q := by
  have less : 2 * (p % q * k) < q * k ↔ 2 * (p % q) < q := by
    rw [← Nat.mul_assoc]
    exact Nat.mul_lt_mul_right positive
  have more : q * k < 2 * (p % q * k) ↔ q < 2 * (p % q) := by
    rw [← Nat.mul_assoc]
    exact Nat.mul_lt_mul_right positive
  simp only [roundHalfEven, Nat.mul_div_mul_right _ _ positive, Nat.mul_mod_mul_right, less, more]

theorem roundUnits_mul_right (p q : Nat) {k : Nat} (positive : 0 < k) :
    roundUnits (p * k) (q * k) = roundUnits p q := by
  rw [roundUnits_eq, roundUnits_eq, Nat.mul_div_mul_right _ _ positive, Nat.mul_right_comm,
    roundHalfEven_mul_right _ _ positive]

theorem roundUnits_of_ratio {p q p' q' : Nat} (positive : 0 < q) (positive' : 0 < q')
    (same : p * q' = p' * q) : roundUnits p q = roundUnits p' q' := by
  rw [← roundUnits_mul_right p q positive', ← roundUnits_mul_right p' q' positive, same, Nat.mul_comm q]

theorem roundUnits_zero : roundUnits 0 1 = 0 := by
  decide

def sizeOf (digits : Nat) (exponent : Int) : Int :=
  (Nat.toDigits 10 digits).length + exponent

/-- A decimal is rounded as a fraction, unless its size settles it. -/
theorem ofDecimal_eq (negative : Bool) (digits : Nat) (exponent : Int) :
    ofDecimal negative digits exponent =
      if digits = 0 ∨ sizeOf digits exponent < -400 then .number negative 0 (Nat.zero_le _)
      else if 400 < sizeOf digits exponent then infinity negative
      else ofUnits negative (digits * 10 ^ exponent.toNat * unitsOfOne) (10 ^ (-exponent).toNat) := by
  unfold ofDecimal sizeOf
  cases exponent with
  | ofNat e =>
    have whole : (-(Int.ofNat e)).toNat = 0 := by simp
    simp only [whole, Nat.pow_zero]
    rfl
  | negSucc e =>
    have below : (Int.negSucc e).toNat = 0 := rfl
    have places : (-(Int.negSucc e)).toNat = e + 1 := rfl
    simp only [below, places, Nat.pow_zero, Nat.mul_one]
    rfl

theorem ofDecimal_zero (negative : Bool) (exponent : Int) :
    ofDecimal negative 0 exponent = .number negative 0 (Nat.zero_le _) := by
  rw [ofDecimal_eq, if_pos (.inl rfl)]

theorem ofDecimal_mul_pow (negative : Bool) (digits k : Nat) (exponent : Int) :
    ofDecimal negative (digits * 10 ^ k) exponent = ofDecimal negative digits (exponent + k) := by
  rcases Nat.eq_zero_or_pos digits with rfl | positive
  · rw [Nat.zero_mul, ofDecimal_zero, ofDecimal_zero]
  · have nonzero : digits * 10 ^ k ≠ 0 := Nat.mul_ne_zero (Nat.ne_zero_of_lt positive) (by simp)
    have sameSize : sizeOf (digits * 10 ^ k) exponent = sizeOf digits (exponent + k) := by
      rw [sizeOf, sizeOf, toDigits_mul_pow positive, List.length_append, List.length_replicate]
      omega
    have fractions : roundUnits (digits * 10 ^ k * 10 ^ exponent.toNat * unitsOfOne)
          (10 ^ (-exponent).toNat) =
        roundUnits (digits * 10 ^ (exponent + k).toNat * unitsOfOne)
          (10 ^ (-(exponent + k)).toNat) := by
      have exponents : k + exponent.toNat + (-(exponent + k)).toNat =
          (exponent + k).toNat + (-exponent).toNat := by omega
      apply roundUnits_of_ratio (Nat.pow_pos (by decide)) (Nat.pow_pos (by decide))
      generalize unitsOfOne = one
      calc digits * 10 ^ k * 10 ^ exponent.toNat * one * 10 ^ (-(exponent + k)).toNat
          = digits * one * 10 ^ (k + exponent.toNat + (-(exponent + k)).toNat) := by
            rw [Nat.pow_add, Nat.pow_add]
            ac_rfl
        _ = digits * 10 ^ (exponent + k).toNat * one * 10 ^ (-exponent).toNat := by
            rw [exponents, Nat.pow_add]
            ac_rfl
    rw [ofDecimal_eq, ofDecimal_eq, sameSize]
    simp only [nonzero, Nat.ne_zero_of_lt positive, ofUnits, fractions]

/-! ## Decimals that read back -/

namespace Decimal

variable {d : Decimal} {rank : Nat}

theorem ofDecimal_of_reads (reads : d.reads rank = true) (negative : Bool)
    (bounded : rank ≤ infinityRank) :
    ofDecimal negative d.digits d.exponent = .number negative rank bounded := by
  unfold Decimal.reads at reads
  rw [ofDecimal_eq] at reads ⊢
  split
  · next small =>
    simp only [if_pos small, decide_eq_true_eq] at reads
    simp only [reads]
  · next notSmall =>
    split
    · next large =>
      simp only [if_neg notSmall, if_pos large, infinity, decide_eq_true_eq] at reads
      simp only [infinity, reads]
    · next within =>
      simp only [if_neg notSmall, if_neg within, ofUnits, decide_eq_true_eq] at reads
      simp only [ofUnits, reads]

theorem reads_zero (exponent : Int) : reads ⟨0, exponent⟩ 0 = true := by
  rw [Decimal.reads, ofDecimal_zero]
  rfl

theorem reads_of_roundUnits {digits : Nat} {exponent : Int} (nonzero : digits ≠ 0)
    (least : -400 ≤ sizeOf digits exponent) (most : sizeOf digits exponent ≤ 400)
    (rounded : roundUnits (digits * 10 ^ exponent.toNat * unitsOfOne) (10 ^ (-exponent).toNat) = rank) :
    reads ⟨digits, exponent⟩ rank = true := by
  rw [Decimal.reads, ofDecimal_eq, if_neg (not_or.mpr ⟨nonzero, Int.not_lt.mpr least⟩),
    if_neg (Int.not_lt.mpr most)]
  exact decide_eq_true rounded

theorem reads_mul_pow (digits k : Nat) (exponent : Int) (rank : Nat) :
    reads ⟨digits * 10 ^ k, exponent⟩ rank = reads ⟨digits, exponent + k⟩ rank := by
  rw [Decimal.reads, Decimal.reads, ofDecimal_mul_pow]

theorem reads_normalize (d : Decimal) (rank : Nat) : d.normalize.reads rank = d.reads rank := by
  induction d using normalize.induct with
  | case1 d zero =>
    rw [normalize, dif_pos zero, Decimal.reads, Decimal.reads, zero, ofDecimal_zero, ofDecimal_zero]
  | case2 d nonzero zeroAtEnd ih =>
    have digits : d.digits / 10 * 10 ^ 1 = d.digits := by omega
    have same := reads_mul_pow (d.digits / 10) 1 d.exponent rank
    rw [digits] at same
    rw [normalize, dif_neg nonzero, if_pos zeroAtEnd, ih]
    exact same.symm
  | case3 d nonzero otherEnd => rw [normalize, dif_neg nonzero, if_neg otherEnd]

theorem exponent_normalize_nonneg (whole : 0 ≤ d.exponent) : 0 ≤ d.normalize.exponent := by
  induction d using normalize.induct with
  | case1 d zero =>
    have exponent : d.normalize.exponent = 0 := by rw [normalize, dif_pos zero]
    exact Int.le_of_eq exponent.symm
  | case2 d nonzero zeroAtEnd ih =>
    rw [normalize, dif_neg nonzero, if_pos zeroAtEnd]
    exact ih (by simp only; omega)
  | case3 d nonzero otherEnd => rwa [normalize, dif_neg nonzero, if_neg otherEnd]

theorem normalize_of_last (last : d.digits % 10 ≠ 0) : d.normalize = d := by
  have nonzero : d.digits ≠ 0 := by
    intro zero
    rw [zero] at last
    exact last rfl
  rw [normalize, dif_neg nonzero, if_neg last]

theorem normalize_mul_pow {n : Nat} (positive : 0 < n) (k : Nat) (exponent : Int) :
    normalize ⟨n * 10 ^ k, exponent⟩ = normalize ⟨n, exponent + k⟩ := by
  induction k generalizing exponent with
  | zero => simp
  | succ k ih =>
    have nonzero : n * 10 ^ (k + 1) ≠ 0 := Nat.mul_ne_zero (Nat.ne_zero_of_lt positive) (by simp)
    have shorter : n * 10 ^ (k + 1) = n * 10 ^ k * 10 := by rw [Nat.pow_succ, Nat.mul_assoc]
    rw [normalize, dif_neg nonzero, if_pos (by simp only [shorter, Nat.mul_mod_left])]
    simp only [shorter, Nat.mul_div_cancel _ (by decide : 0 < 10)]
    rw [ih, Int.natCast_add, Int.add_right_comm, Int.add_assoc]
    rfl

end Decimal

/-! ## The shortest decimal -/

variable {up : TieRule} {rank : Nat} {exponent : Int} {d : Decimal}

theorem nearestOn_eq_some (found : nearestOn up rank exponent = some d) :
    d.reads rank = true ∧ d.exponent = exponent := by
  unfold nearestOn at found
  generalize unitsOfOne = one at found
  simp only at found
  split at found
  · cases found
  · next low _ =>
    cases found
    exact ⟨low, rfl⟩
  · next high =>
    cases found
    exact ⟨high, rfl⟩
  · next low high =>
    cases found
    split
    · exact ⟨low, rfl⟩
    · split
      · exact ⟨high, rfl⟩
      · exact ⟨low, rfl⟩

theorem units_lt (binades : Nat) (below : rank < (binades + 2) * binade) :
    units rank < 2 ^ (53 + binades) := by
  have significand {n : Nat} (small : n < 2 * binade) : n < 2 ^ 53 := small
  rw [Nat.pow_add]
  unfold units
  split
  · next small =>
    exact Nat.lt_of_lt_of_le (significand (by omega)) (Nat.le_mul_of_pos_right _ (Nat.two_pow_pos _))
  · have within : rank % binade < binade := Nat.mod_lt _ binade_pos
    have places : rank / binade < binades + 2 := Nat.div_lt_of_lt_mul (Nat.mul_comm _ binade ▸ below)
    exact Nat.mul_lt_mul_of_lt_of_le (significand (by omega))
      (Nat.pow_le_pow_right (by decide) (by omega)) (Nat.two_pow_pos _)

theorem units_pos (positive : 0 < rank) : 0 < units rank := by
  unfold units
  split
  · exact positive
  · exact Nat.mul_pos (Nat.add_pos_left binade_pos _) (Nat.two_pow_pos _)

theorem units_zero : units 0 = 0 :=
  if_pos binade_pos

def exactPlaces : Nat := 1074

theorem exact_eq (rank : Nat) : exact rank = ⟨units rank * 5 ^ exactPlaces, -exactPlaces⟩ := by
  have digits : Nat.pow 5 1074 = 5 ^ exactPlaces := by
    unfold exactPlaces
    generalize 1074 = n
    rfl
  rw [exact, digits]
  rfl

theorem unitsOfOne_eq_two_pow : unitsOfOne = 2 ^ exactPlaces := by
  unfold unitsOfOne exactPlaces
  generalize 1074 = n
  rfl

theorem five_pow_mul_unitsOfOne : 5 ^ exactPlaces * unitsOfOne = 10 ^ exactPlaces := by
  rw [unitsOfOne_eq_two_pow, ← Nat.mul_pow]

theorem sizeOf_exact (finite : rank < infinityRank) (positive : 0 < rank) :
    -400 ≤ sizeOf (units rank * 5 ^ exactPlaces) (-exactPlaces) ∧
      sizeOf (units rank * 5 ^ exactPlaces) (-exactPlaces) ≤ 400 := by
  have least : 10 ^ (exactPlaces - 400) ≤ units rank * 5 ^ exactPlaces :=
    calc 10 ^ (exactPlaces - 400) ≤ 5 ^ exactPlaces := by decide +kernel
      _ ≤ units rank * 5 ^ exactPlaces := Nat.le_mul_of_pos_left _ (units_pos positive)
  have most : units rank * 5 ^ exactPlaces < 10 ^ (exactPlaces + 400) :=
    calc units rank * 5 ^ exactPlaces < 2 ^ (53 + 2045) * 5 ^ exactPlaces :=
          Nat.mul_lt_mul_of_pos_right (units_lt 2045 finite) (Nat.pow_pos (by decide))
      _ ≤ 10 ^ (exactPlaces + 400) := by decide +kernel
  have long := length_toDigits_of_pow_le (by decide) least
  have short := (Nat.length_toDigits_le_iff (b := 10) (by decide) (by decide)).mpr most
  unfold sizeOf
  omega

theorem reads_exact (finite : rank < infinityRank) : (exact rank).reads rank = true := by
  rw [exact_eq]
  rcases Nat.eq_zero_or_pos rank with rfl | positive
  · rw [units_zero, Nat.zero_mul]
    exact Decimal.reads_zero _
  · obtain ⟨least, most⟩ := sizeOf_exact finite positive
    have nonzero : units rank * 5 ^ exactPlaces ≠ 0 :=
      Nat.mul_ne_zero (Nat.ne_zero_of_lt (units_pos positive)) (Nat.ne_zero_of_lt (Nat.pow_pos (by decide)))
    have whole : (-(exactPlaces : Int)).toNat = 0 := by omega
    have places : (-(-(exactPlaces : Int))).toNat = exactPlaces := by omega
    have ratio : units rank * 10 ^ exactPlaces * 1 = units rank * 10 ^ exactPlaces := Nat.mul_one _
    apply Decimal.reads_of_roundUnits nonzero least most
    rw [whole, places, Nat.pow_zero, Nat.mul_one, Nat.mul_assoc, five_pow_mul_unitsOfOne,
      roundUnits_of_ratio (Nat.pow_pos (by decide)) Nat.one_pos ratio, roundUnits_units finite]

/-- The shortest decimal, before the zeros at its end are dropped: the first one found near the magnitude, or
all digits of it. -/
theorem shortest_cases (up : TieRule) (rank : Nat) :
    ∃ d, shortest up rank = d.normalize ∧
      (d = exact rank ∨ ∃ n < 17, nearestOn up rank (wholeDigits rank - (n + 1 : Nat)) = some d ∧
        ∀ m < n, nearestOn up rank (wholeDigits rank - (m + 1 : Nat)) = none) := by
  unfold shortest
  simp only
  cases found : (List.range 17).findSome? fun n =>
      nearestOn up rank (wholeDigits rank - (n + 1 : Nat)) with
  | none => exact ⟨_, rfl, .inl rfl⟩
  | some d =>
    obtain ⟨front, n, rest, range, near, earlier⟩ := List.findSome?_eq_some_iff.mp found
    have ascending := List.pairwise_lt_range (n := 17)
    rw [range] at ascending
    have small : n < 17 := List.mem_range.mp (range ▸ List.mem_append_right _ List.mem_cons_self)
    refine ⟨_, rfl, .inr ⟨n, small, near, fun m less => earlier m ?_⟩⟩
    -- A smaller number is neither this one nor behind it.
    have mem : m ∈ front ++ n :: rest := range ▸ List.mem_range.mpr (Nat.lt_trans less small)
    rcases List.mem_append.mp mem with inFront | behind
    · exact inFront
    · rcases List.mem_cons.mp behind with rfl | inRest
      · exact absurd less (Nat.lt_irrefl m)
      · have after := (List.pairwise_cons.mp (List.pairwise_append.mp ascending).2.1).1 m inRest
        omega

theorem shortest_of_found (last : d.digits % 10 ≠ 0)
    (found : (List.range 17).findSome? (fun n => nearestOn up rank (wholeDigits rank - (n + 1 : Nat))) =
      some d) : shortest up rank = d := by
  rw [shortest, found]
  exact Decimal.normalize_of_last last

theorem reads_shortest (up : TieRule) (finite : rank < infinityRank) :
    (shortest up rank).reads rank = true := by
  obtain ⟨d, written, rfl | ⟨n, -, near, -⟩⟩ := shortest_cases up rank
  · rw [written, Decimal.reads_normalize, reads_exact finite]
  · rw [written, Decimal.reads_normalize, (nearestOn_eq_some near).1]

end PlainTables.Double
