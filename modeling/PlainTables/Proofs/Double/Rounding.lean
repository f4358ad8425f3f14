import Mathlib.Algebra.GroupWithZero.Nat
import PlainTables.Double

/-!
# Rounding

Rounding keeps the order of what is rounded, and it keeps what needs no rounding: every finite magnitude is
the one nearest to its own units.

Integers up to the 53rd power of two are doubles themselves. A larger one is rounded, so that several of them
can become one double, but none comes before a smaller one.
-/

namespace PlainTables.Double

/-- Rounding goes down to the whole part of a quotient or up to the number after it. -/
theorem roundHalfEven_bounds (p q : Nat) :
    p / q ≤ roundHalfEven p q ∧ roundHalfEven p q ≤ p / q + 1 := by
  unfold roundHalfEven
  simp only
  split
  · omega
  · split
    · omega
    · split <;> omega

theorem le_roundHalfEven {p q n : Nat} (positive : 0 < q) (le : n * q ≤ p) :
    n ≤ roundHalfEven p q :=
  Nat.le_trans ((Nat.le_div_iff_mul_le positive).mpr le) (roundHalfEven_bounds p q).1

theorem roundHalfEven_mul (n : Nat) {q : Nat} (positive : 0 < q) :
    roundHalfEven (n * q) q = n := by
  simp [roundHalfEven, Nat.mul_div_cancel n positive, positive]

theorem roundHalfEven_mono {p p' : Nat} (q : Nat) (le : p ≤ p') :
    roundHalfEven p q ≤ roundHalfEven p' q := by
  rcases Nat.lt_or_eq_of_le (Nat.div_le_div_right (c := q) le) with less | same
  · have above := (roundHalfEven_bounds p q).2
    have below := (roundHalfEven_bounds p' q).1
    omega
  · -- The whole parts are the same, and so the remainders are in the order of the quotients.
    have remainders : p % q ≤ p' % q := by
      have first := Nat.div_add_mod p q
      have second := Nat.div_add_mod p' q
      rw [same] at first
      omega
    unfold roundHalfEven
    simp only [same]
    grind

theorem roundHalfEven_le {p q n : Nat} (positive : 0 < q) (le : p ≤ n * q) :
    roundHalfEven p q ≤ n :=
  Nat.le_trans (roundHalfEven_mono q le) (Nat.le_of_eq (roundHalfEven_mul n positive))

theorem binade_pos : 0 < binade := Nat.two_pow_pos 52

/-- The number of binades that rounding leaves below a quotient with this whole part. -/
def scaleOf (whole : Nat) : Nat :=
  whole.log2 - 52

theorem roundUnits_eq (p q : Nat) :
    roundUnits p q = min infinityRank
      (scaleOf (p / q) * binade + roundHalfEven p (q * 2 ^ scaleOf (p / q))) :=
  rfl

/-- What is rounded in a scale has the size of at most two binades. -/
theorem le_mul_scale (p : Nat) {q : Nat} (positive : 0 < q) :
    p ≤ 2 * binade * (q * 2 ^ scaleOf (p / q)) := by
  have below : p / q < 2 ^ ((p / q).log2 + 1) := Nat.lt_log2_self
  have enough : 2 ^ ((p / q).log2 + 1) ≤ 2 ^ (53 + scaleOf (p / q)) :=
    Nat.pow_le_pow_right (by decide) (by unfold scaleOf; omega)
  have whole : p < 2 ^ (53 + scaleOf (p / q)) * q :=
    (Nat.div_lt_iff_lt_mul positive).mp (Nat.lt_of_lt_of_le below enough)
  rw [Nat.pow_add] at whole
  have size : 2 * binade = 2 ^ 53 := rfl
  rw [size]
  calc p ≤ 2 ^ 53 * 2 ^ scaleOf (p / q) * q := Nat.le_of_lt whole
    _ = 2 ^ 53 * (q * 2 ^ scaleOf (p / q)) := by ac_rfl

/-- In a scale above the lowest one it has the size of at least one binade. -/
theorem mul_scale_le {p q : Nat} (positive : 0 < q) (scaled : 0 < scaleOf (p / q)) :
    binade * (q * 2 ^ scaleOf (p / q)) ≤ p := by
  have nonzero : p / q ≠ 0 := by
    intro zero
    rw [zero] at scaled
    exact absurd scaled (by decide)
  have above : 2 ^ (p / q).log2 ≤ p / q := Nat.log2_self_le nonzero
  have parts : (p / q).log2 = 52 + scaleOf (p / q) := by unfold scaleOf at scaled ⊢; omega
  rw [parts, Nat.pow_add] at above
  have whole : 2 ^ 52 * 2 ^ scaleOf (p / q) * q ≤ p := (Nat.le_div_iff_mul_le positive).mp above
  calc binade * (q * 2 ^ scaleOf (p / q)) = 2 ^ 52 * 2 ^ scaleOf (p / q) * q := by
        rw [show binade = 2 ^ 52 from rfl]
        ac_rfl
    _ ≤ p := whole

theorem roundUnits_mono {p p' q : Nat} (positive : 0 < q) (le : p ≤ p') :
    roundUnits p q ≤ roundUnits p' q := by
  rw [roundUnits_eq, roundUnits_eq]
  refine Nat.le_min.mpr ⟨Nat.min_le_left _ _, Nat.le_trans (Nat.min_le_right _ _) ?_⟩
  have spread (n : Nat) : 0 < q * 2 ^ n := Nat.mul_pos positive (Nat.two_pow_pos n)
  have scales : scaleOf (p / q) ≤ scaleOf (p' / q) := by
    have whole : p / q ≤ p' / q := Nat.div_le_div_right le
    unfold scaleOf
    by_cases zero : p / q = 0
    · simp [zero]
    · have logs : (p / q).log2 ≤ (p' / q).log2 :=
        (Nat.le_log2 (Nat.ne_zero_of_lt (Nat.lt_of_lt_of_le (Nat.pos_of_ne_zero zero) whole))).mpr
          (Nat.le_trans (Nat.log2_self_le zero) whole)
      omega
  rcases Nat.lt_or_eq_of_le scales with lower | same
  · -- A lower scale ends where the next one starts.
    have most := roundHalfEven_le (spread (scaleOf (p / q))) (le_mul_scale p positive)
    have least := le_roundHalfEven (spread (scaleOf (p' / q)))
      (mul_scale_le positive (Nat.zero_lt_of_lt lower))
    have next : (scaleOf (p / q) + 1) * binade ≤ scaleOf (p' / q) * binade :=
      Nat.mul_le_mul_right binade lower
    rw [Nat.add_mul] at next
    omega
  · rw [same]
    exact Nat.add_le_add_left (roundHalfEven_mono _ le) _

/-- A significand with a full number of digits is not shortened, so its exponent is the scale. -/
theorem scaleOf_mul_two_pow {significand : Nat} (full : binade ≤ significand)
    (single : significand < 2 * binade) (exponent : Nat) :
    scaleOf (significand * 2 ^ exponent) = exponent := by
  have log : (significand * 2 ^ exponent).log2 = 52 + exponent := by
    refine (Nat.log2_eq_iff ?_).mpr ⟨?_, ?_⟩
    · exact Nat.mul_ne_zero (Nat.ne_zero_of_lt (Nat.lt_of_lt_of_le binade_pos full))
        (Nat.ne_zero_of_lt (Nat.two_pow_pos _))
    · rw [Nat.pow_add]
      exact Nat.mul_le_mul_right _ full
    · rw [Nat.add_right_comm, Nat.pow_add]
      exact (Nat.mul_lt_mul_right (Nat.two_pow_pos _)).mpr single
  unfold scaleOf
  omega

theorem roundUnits_units {rank : Nat} (finite : rank < infinityRank) :
    roundUnits (units rank) 1 = rank := by
  rw [roundUnits_eq, Nat.div_one]
  unfold units
  split
  · next small =>
    have lowest : scaleOf rank = 0 := by
      by_cases zero : rank = 0
      · rw [zero]
        rfl
      · have log : rank.log2 < 52 := (Nat.log2_lt zero).mpr small
        unfold scaleOf
        omega
    have kept := roundHalfEven_mul rank (q := 1) Nat.one_pos
    rw [Nat.mul_one] at kept
    simp only [lowest, Nat.zero_mul, Nat.zero_add, Nat.pow_zero, Nat.mul_one, kept]
    omega
  · next large =>
    let exponent := rank / binade - 1
    let significand := binade + rank % binade
    have nonzero : 1 ≤ rank / binade := (Nat.one_le_div_iff binade_pos).mpr (Nat.le_of_not_lt large)
    have within : rank % binade < binade := Nat.mod_lt _ binade_pos
    have scale : scaleOf (significand * 2 ^ exponent) = exponent :=
      scaleOf_mul_two_pow (Nat.le_add_right _ _) (by omega) exponent
    have kept := roundHalfEven_mul significand (Nat.two_pow_pos exponent)
    have whole := Nat.div_add_mod' rank binade
    change min infinityRank (scaleOf (significand * 2 ^ exponent) * binade +
      roundHalfEven (significand * 2 ^ exponent)
        (1 * 2 ^ scaleOf (significand * 2 ^ exponent))) = rank
    rw [scale, Nat.one_mul, kept]
    have parts : exponent * binade + significand = rank := by
      obtain ⟨e, number⟩ := Nat.exists_eq_add_of_le nonzero
      have places : exponent = e := by omega
      rw [number, Nat.add_mul] at whole
      rw [places]
      omega
    rw [parts]
    omega

/-! ## Integers as doubles -/

def rankOfNat (n : Nat) : Nat :=
  roundUnits (n * unitsOfOne) 1

theorem rankOfNat_mono {m n : Nat} (le : m ≤ n) : rankOfNat m ≤ rankOfNat n :=
  roundUnits_mono Nat.one_pos (Nat.mul_le_mul_right _ le)

theorem units_of_parts (exponent : Nat) {fraction : Nat} (within : fraction < binade) :
    units (binade * (exponent + 1) + fraction) = (binade + fraction) * 2 ^ exponent := by
  have large : ¬ binade * (exponent + 1) + fraction < binade := by
    rw [Nat.mul_add, Nat.mul_one]
    omega
  unfold units
  rw [if_neg large, Nat.mul_add_mod, Nat.mod_eq_of_lt within, Nat.mul_add_div binade_pos,
    Nat.div_eq_of_lt within]
  rfl

theorem unitsOfOne_eq : ∃ lift ≤ 1022, unitsOfOne = 2 ^ 52 * 2 ^ lift := by
  unfold unitsOfOne
  generalize whole : 1074 = n
  exact ⟨n - 52, by omega, by rw [Nat.pow_eq, ← Nat.pow_add, Nat.add_sub_cancel' (by omega)]⟩

theorem unitsOfOne_pos : 0 < unitsOfOne := by
  unfold unitsOfOne
  generalize 1074 = n
  exact Nat.two_pow_pos n

/-- A number with at most 53 binary digits, or the one after these, is a magnitude itself. -/
theorem exists_rank {n : Nat} (small : n ≤ 2 ^ 53) :
    ∃ rank < infinityRank, units rank = n * unitsOfOne := by
  by_cases zero : n = 0
  · exact ⟨0, Nat.mul_pos (by decide) binade_pos, by rw [zero, Nat.zero_mul]; rfl⟩
  -- The digits of the number, moved to the left, fill a significand.
  obtain ⟨exponent, fraction, bound, within, digits⟩ : ∃ exponent fraction, exponent ≤ 53 ∧
      fraction < binade ∧ (binade + fraction) * 2 ^ exponent = n * 2 ^ 52 := by
    by_cases last : n = 2 ^ 53
    · exact ⟨53, 0, Nat.le_refl _, binade_pos, by rw [last]; rfl⟩
    · have log : n.log2 < 53 := (Nat.log2_lt zero).mpr (by omega)
      have size : 2 ^ n.log2 * 2 ^ (52 - n.log2) = binade := by
        rw [← Nat.pow_add, Nat.add_sub_cancel' (by omega)]
        rfl
      have least := Nat.mul_le_mul_right (2 ^ (52 - n.log2)) (Nat.log2_self_le zero)
      have most := (Nat.mul_lt_mul_right (Nat.two_pow_pos (52 - n.log2))).mpr
        (Nat.lt_log2_self (n := n))
      rw [size] at least
      rw [Nat.pow_succ, Nat.mul_right_comm, size] at most
      refine ⟨n.log2, n * 2 ^ (52 - n.log2) - binade, by omega, by omega, ?_⟩
      rw [Nat.add_sub_cancel' least, Nat.mul_assoc, ← Nat.pow_add, Nat.sub_add_cancel (by omega)]
  obtain ⟨lift, most, one⟩ := unitsOfOne_eq
  refine ⟨binade * (exponent + lift + 1) + fraction, ?_, ?_⟩
  · have below : binade * (exponent + lift + 1) ≤ 1076 * binade := by
      rw [Nat.mul_comm]
      exact Nat.mul_le_mul_right _ (by omega)
    unfold infinityRank
    omega
  · rw [units_of_parts _ within, one, Nat.pow_add, ← Nat.mul_assoc, digits, Nat.mul_assoc]

theorem rankOfNat_lt {m n : Nat} (less : m < n) (small : m < 2 ^ 53) :
    rankOfNat m < rankOfNat n := by
  obtain ⟨rank, finite, own⟩ := exists_rank (Nat.le_of_lt small)
  obtain ⟨rank', finite', next⟩ := exists_rank (n := m + 1) small
  have first : rankOfNat m = rank := by rw [rankOfNat, ← own, roundUnits_units finite]
  have second : rankOfNat (m + 1) = rank' := by rw [rankOfNat, ← next, roundUnits_units finite']
  have apart : rank ≠ rank' := by
    rintro rfl
    have same := Nat.eq_of_mul_eq_mul_right unitsOfOne_pos (own.symm.trans next)
    omega
  have upTo := rankOfNat_mono (Nat.le_add_right m 1)
  have beyond := rankOfNat_mono (m := m + 1) less
  omega

theorem rankOfNat_pos {n : Nat} (positive : 0 < n) : 0 < rankOfNat n :=
  Nat.lt_of_le_of_lt (Nat.zero_le _) (rankOfNat_lt positive (by decide))

def rankOfInt (i : Int) : Int :=
  signedRank (i < 0) (rankOfNat i.natAbs)

theorem ofInt_zero : ofInt 0 = zero := by
  simp only [ofInt, ofUnits, zero, number.injEq]
  refine ⟨rfl, ?_⟩
  rw [Int.natAbs_zero, Nat.zero_mul]
  decide

theorem compare?_ofInt_eq_compare (i j : Int) :
    (ofInt i).compare? (ofInt j) = some (compare (rankOfInt i) (rankOfInt j)) :=
  rfl

theorem rankOfInt_of_nonneg {i : Int} (nonneg : 0 ≤ i) : rankOfInt i = rankOfNat i.natAbs := by
  simp [rankOfInt, signedRank, Int.not_lt.mpr nonneg]

theorem rankOfInt_of_neg {i : Int} (negative : i < 0) :
    rankOfInt i = -(rankOfNat i.natAbs : Int) := by
  simp [rankOfInt, signedRank, negative]

theorem rankOfInt_neg {i : Int} (negative : i < 0) : rankOfInt i < 0 := by
  have positive := rankOfNat_pos (n := i.natAbs) (by omega)
  rw [rankOfInt_of_neg negative]
  omega

theorem rankOfInt_mono {i j : Int} (le : i ≤ j) : rankOfInt i ≤ rankOfInt j := by
  by_cases positiveJ : 0 ≤ j
  · by_cases positiveI : 0 ≤ i
    · rw [rankOfInt_of_nonneg positiveI, rankOfInt_of_nonneg positiveJ]
      exact Int.ofNat_le.mpr (rankOfNat_mono (by omega))
    · have below := rankOfInt_neg (Int.not_le.mp positiveI)
      rw [rankOfInt_of_nonneg positiveJ]
      omega
  · rw [rankOfInt_of_neg (i := i) (by omega), rankOfInt_of_neg (i := j) (by omega)]
    exact Int.neg_le_neg (Int.ofNat_le.mpr (rankOfNat_mono (by omega)))

theorem rankOfInt_lt {i j : Int} (less : i < j) (small : i.natAbs < 2 ^ 53 ∨ j.natAbs < 2 ^ 53) :
    rankOfInt i < rankOfInt j := by
  by_cases positiveJ : 0 ≤ j
  · by_cases positiveI : 0 ≤ i
    · rw [rankOfInt_of_nonneg positiveI, rankOfInt_of_nonneg positiveJ]
      exact Int.ofNat_lt.mpr (rankOfNat_lt (by omega) (by omega))
    · have below := rankOfInt_neg (Int.not_le.mp positiveI)
      rw [rankOfInt_of_nonneg positiveJ]
      omega
  · rw [rankOfInt_of_neg (i := i) (by omega), rankOfInt_of_neg (i := j) (by omega)]
    exact Int.neg_lt_neg (Int.ofNat_lt.mpr (rankOfNat_lt (by omega) (by omega)))

theorem ofInt_eq_iff {i j : Int} : ofInt i = ofInt j ↔ rankOfInt i = rankOfInt j := by
  constructor
  · intro same
    obtain ⟨signs, ranks⟩ := number.inj same
    unfold rankOfInt
    rw [signs]
    exact congrArg (signedRank _ ·) ranks
  · intro same
    have signs : (i < 0) = (j < 0) := by
      by_cases negativeI : i < 0 <;> by_cases negativeJ : j < 0
      · simp [negativeI, negativeJ]
      · have below := rankOfInt_neg negativeI
        rw [rankOfInt_of_nonneg (i := j) (by omega)] at same
        omega
      · have below := rankOfInt_neg negativeJ
        rw [rankOfInt_of_nonneg (i := i) (by omega)] at same
        omega
      · simp [negativeI, negativeJ]
    have ranks : rankOfNat i.natAbs = rankOfNat j.natAbs := by
      unfold rankOfInt signedRank at same
      simp only [signs] at same
      split at same <;> omega
    simp only [ofInt, ofUnits, number.injEq]
    exact ⟨by simp only [signs], ranks⟩

/-- Integers are compared as doubles by their order, unless they have become one double. -/
theorem compare?_ofInt (i j : Int) :
    (ofInt i).compare? (ofInt j) = some (if ofInt i = ofInt j then .eq else compare i j) := by
  rw [compare?_ofInt_eq_compare]
  by_cases same : ofInt i = ofInt j
  · rw [if_pos same, ofInt_eq_iff.mp same]
    exact congrArg some (Int.compare_eq_eq.mpr rfl)
  · rw [if_neg same]
    have apart : rankOfInt i ≠ rankOfInt j := fun ranks => same (ofInt_eq_iff.mpr ranks)
    rcases Int.lt_trichotomy i j with less | rfl | greater
    · have ranks := rankOfInt_mono (Int.le_of_lt less)
      rw [Int.compare_eq_lt.mpr less, Int.compare_eq_lt.mpr (by omega)]
    · exact absurd rfl same
    · have ranks := rankOfInt_mono (Int.le_of_lt greater)
      rw [Int.compare_eq_gt.mpr greater, Int.compare_eq_gt.mpr (by omega)]

theorem ofInt_injective {i j : Int} (small : i.natAbs < 2 ^ 53 ∨ j.natAbs < 2 ^ 53)
    (same : ofInt i = ofInt j) : i = j := by
  have ranks := ofInt_eq_iff.mp same
  rcases Int.lt_trichotomy i j with less | equal | greater
  · have apart := rankOfInt_lt less small
    omega
  · exact equal
  · have apart := rankOfInt_lt greater small.symm
    omega

end PlainTables.Double
