import PlainTables.Evaluation.Condition
import PlainTables.Proofs.Double.Rounding
import PlainTables.Proofs.Numeral
import PlainTables.Proofs.Value.Order

/-!
# Integers in quotes

A text of the digits of an integer holds the double nearest to this integer, and an integer is compared with
it as a double. The order of two such integers is lost when they have one double, and only then.
-/

namespace PlainTables

namespace Double

theorem ofDecimal_eq_ofInt {i : Int} (bounded : i.natAbs < 10 ^ 20) :
    ofDecimal (i < 0) i.natAbs 0 = ofInt i := by
  by_cases zero : i = 0
  · subst zero
    exact ofInt_zero.symm
  · have size : (Nat.toDigits 10 i.natAbs).length ≤ 20 :=
      (Nat.length_toDigits_le_iff (by decide) (by decide)).mpr bounded
    have present : ¬ (i.natAbs = 0 ∨ ((Nat.toDigits 10 i.natAbs).length : Int) + 0 < -400) := by
      omega
    have within : ¬ 400 < ((Nat.toDigits 10 i.natAbs).length : Int) + 0 := by omega
    simp only [ofDecimal, if_neg present, if_neg within]
    show ofUnits _ (i.natAbs * Nat.pow 10 0 * unitsOfOne) 1 = _
    rw [Nat.pow_eq, Nat.pow_zero, Nat.mul_one]
    rfl

theorem read?_intText {i : Int} (bounded : i.natAbs < 10 ^ 20) :
    read? (Numeral.intText i) = some (ofInt i) := by
  have digits : ∀ c ∈ Nat.toDigits 10 i.natAbs, c.isDigit = true :=
    fun c mem => Numeral.isDigit_of_mem mem
  have nonempty : (Nat.toDigits 10 i.natAbs).isEmpty = false :=
    List.isEmpty_eq_false_iff.mpr Nat.toDigits_ne_nil
  rw [read?, Numeral.splitSign_intText]
  simp only [List.takeWhile_eq_self_iff.mpr digits, List.dropWhile_eq_nil_iff.mpr digits, nonempty,
    readExponent?, Option.map_some, List.append_nil, Nat.ofDigitChars_ten_toDigits]
  exact congrArg some (ofDecimal_eq_ofInt bounded)

end Double

namespace Value

def quoted (j : Int64) : Value :=
  text (integer j).display

theorem asDouble?_quoted (j : Int64) : (quoted j).asDouble? = some (Double.ofInt j.toInt) := by
  have bounded : j.toInt.natAbs < 10 ^ 20 := by
    have low := j.le_toInt
    have high := j.toInt_lt
    have wide : 2 ^ 63 < 10 ^ 20 := by decide
    omega
  show Double.read? (Text.trim (String.ofList (Numeral.intText j.toInt)).toList) = _
  rw [String.toList_ofList, Numeral.trim_intText, Double.read?_intText bounded]

/-- The order of an integer and a quoted one: that of the integers, unless they have one double. -/
def quotedOrder (i j : Int64) : Ordering :=
  if Double.ofInt i.toInt = Double.ofInt j.toInt then .eq else compare i.toInt j.toInt

theorem compare?_quoted (i j : Int64) :
    (integer i).compare? (quoted j) = some (quotedOrder i j) := by
  rw [compare?_eq_compareMixed? rfl rfl (by simp [quoted, type]), compareMixed?, asDouble?_quoted]
  exact Double.compare?_ofInt i.toInt j.toInt

theorem compare?_quoted_left (i j : Int64) :
    (quoted j).compare? (integer i) = some (quotedOrder i j).swap := by
  obtain ⟨order, right, left⟩ := exists_compare? (u := integer i) (v := quoted j) rfl rfl
  obtain rfl := Option.some.inj (right.symm.trans (compare?_quoted i j))
  exact left

/-- With one integer of at most 53 binary digits the order is exact. -/
theorem quotedOrder_eq_compare {i j : Int64}
    (narrow : i.toInt.natAbs < 2 ^ 53 ∨ j.toInt.natAbs < 2 ^ 53) :
    quotedOrder i j = compare i.toInt j.toInt := by
  unfold quotedOrder
  split
  · next same =>
    rw [Double.ofInt_injective narrow same]
    exact (Int.compare_eq_eq.mpr rfl).symm
  · rfl

end Value

open Value in
/-- An integer and a quoted one are in the order of the integers, except that two with one double count as
equal, which no integer of at most 53 binary digits does with another one. A comparison of a column with a
quoted integer holds by this order. -/
theorem Condition.evaluate_quoted_integer {scope : Scope} {name : String} {i : Int64}
    (known : scope.lookup name = some (.integer i)) (q : Option String) (op : Comparison) (j : Int64) :
    ((integer i).compare? (quoted j) = some (quotedOrder i j) ∧
      (quoted j).compare? (integer i) = some (quotedOrder i j).swap) ∧
    ((compare op (.column q name) (.literal (quoted j))).evaluate scope =
        .ok (op.holds (quotedOrder i j)) ∧
      (compare op (.literal (quoted j)) (.column q name)).evaluate scope =
        .ok (op.holds (quotedOrder i j).swap)) ∧
    (i.toInt.natAbs < 2 ^ 53 ∨ j.toInt.natAbs < 2 ^ 53 →
      quotedOrder i j = Ord.compare i.toInt j.toInt) := by
  have column : (Expression.column q name).operand scope = .ok (some (integer i)) := by
    simp only [Expression.operand, Expression.evaluate, known]
  have literal : (Expression.literal (quoted j)).operand scope = .ok (some (quoted j)) := rfl
  refine ⟨⟨compare?_quoted i j, compare?_quoted_left i j⟩, ⟨?_, ?_⟩, quotedOrder_eq_compare⟩
  · rw [evaluate, truth, column, literal]
    show Except.ok (((integer i).compare? (quoted j)).any op.holds) = _
    rw [compare?_quoted]
    rfl
  · rw [evaluate, truth, column, literal]
    show Except.ok (((quoted j).compare? (integer i)).any op.holds) = _
    rw [compare?_quoted_left]
    rfl

theorem Condition.evaluate_quoted_three :
    ({ lookup := fun _ => some (.integer 3) } : Scope).lookup "ID" = some (.integer 3) ∧
      (Condition.compare .eq (.column none "ID") (.literal (Value.quoted 3))).evaluate
        { lookup := fun _ => some (.integer 3) } = .ok true := by
  have known : ({ lookup := fun _ => some (.integer 3) } : Scope).lookup "ID" = some (.integer 3) := rfl
  have rows := Condition.evaluate_quoted_integer known none .eq 3
  refine ⟨known, rows.2.1.1.trans ?_⟩
  rw [rows.2.2 (.inl (by decide))]
  rfl

/-- The number after the 53rd power of two equals that power in quotes, and its row is selected for it. -/
theorem Condition.quoted_power_equals_successor :
    (Value.integer 9007199254740993).compare? (.text "9007199254740992") = some .eq ∧
      Ord.compare (9007199254740993 : Int64).toInt (9007199254740992 : Int64).toInt = .gt ∧
      (Condition.compare .eq (.column none "ID") (.literal (.text "9007199254740992"))).evaluate
        { lookup := fun _ => some (.integer 9007199254740993) } = .ok true := by
  refine ⟨?_, ?_, ?_⟩ <;> decide +kernel

end PlainTables
