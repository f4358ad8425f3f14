import PlainTables.Evaluation.Condition
import PlainTables.Proofs.Value.Order

/-!
# Comparisons and ranges

A comparison can be read from both sides, two operands that can be compared are in exactly one of three
orders, and a comparison without an operand is false. BETWEEN is its two comparisons, except that its upper
bound is evaluated even where the lower one has already decided.
-/

namespace PlainTables

open Std

namespace Value

theorem compare?_null (v : Value) : v.compare? null = none := by
  cases v <;> rfl

theorem compare?_swap_of_type_eq {u v : Value} (same : u.type = v.type) :
    v.compare? u = (u.compare? v).map Ordering.swap := by
  cases u with
  | null =>
    rw [compare?_null]
    rfl
  | integer i =>
    cases v with
    | integer j => exact congrArg some OrientedCmp.eq_swap
    | _ => cases same
  | double x =>
    cases v with
    | double y => exact Double.compare?_swap x y
    | _ => cases same
  | text s =>
    cases v with
    | text t => exact congrArg some OrientedCmp.eq_swap
    | null => rfl
    | _ => cases same
  | date d =>
    cases v with
    | date e => exact congrArg some (@OrientedCmp.eq_swap _ Date.compare _ _ _)
    | _ => cases same
  | time t =>
    cases v with
    | time t' => exact congrArg some (@OrientedCmp.eq_swap _ TimeOfDay.compare _ _ _)
    | _ => cases same
  | timestamp t =>
    cases v with
    | timestamp t' => exact congrArg some (@OrientedCmp.eq_swap _ Timestamp.compare _ _ _)
    | _ => cases same

/-- Any two values are in opposite orders from both sides, or in none from both. -/
theorem compare?_swap (u v : Value) : v.compare? u = (u.compare? v).map Ordering.swap := by
  by_cases same : u.type = v.type
  · exact compare?_swap_of_type_eq same
  · by_cases thereU : u = null
    · rw [thereU, compare?_null]
      rfl
    · by_cases thereV : v = null
      · rw [thereV, compare?_null]
        rfl
      · rw [compare?_of_type_ne thereU thereV same, compare?_of_type_ne thereV thereU (Ne.symm same)]
        exact compareMixed?_swap u v

end Value

theorem Value.isComparable_of_ne {v : Value} (there : v ≠ .null) (defined : v ≠ .double .nan) :
    v.isComparable = true := by
  cases v with
  | null => exact absurd rfl there
  | double x =>
    cases x with
    | nan => exact absurd rfl defined
    | number => rfl
  | integer | text | date | time | timestamp => rfl

theorem Expression.ne_null_of_operand {e : Expression} {scope : Scope} {v : Value}
    (operand : e.operand scope = .ok (some v)) : v ≠ .null := by
  unfold Expression.operand at operand
  split at operand
  · cases operand
  · next there _ =>
    cases operand
    rintro rfl
    exact there rfl
  · cases operand
  · cases operand

namespace Comparison

def mirrored : Comparison → Comparison
  | eq => eq
  | ne => ne
  | lt => gt
  | gt => lt
  | le => ge
  | ge => le

theorem holds_mirrored (op : Comparison) (order : Ordering) :
    op.mirrored.holds order.swap = op.holds order := by
  cases op <;> cases order <;> rfl

theorem compare_mirrored (op : Comparison) (x y : Option Value) :
    op.mirrored.compare y x = op.compare x y := by
  cases x with
  | none => cases y <;> rfl
  | some u =>
    cases y with
    | none => rfl
    | some v =>
      simp only [compare]
      rw [Value.compare?_swap u v, Option.any_map]
      apply congrArg (fun holds => (u.compare? v).any holds)
      funext order
      exact op.holds_mirrored order

theorem compare_none {x y : Option Value} (missing : x = none ∨ y = none) (op : Comparison) :
    op.compare x y = false := by
  rcases missing with rfl | rfl
  · rfl
  · cases x <;> rfl

end Comparison

namespace Condition

variable {scope : Scope} {l r : Expression} {x y : Option Value}

theorem evaluate_compare (left : l.operand scope = .ok x) (right : r.operand scope = .ok y)
    (op : Comparison) : (compare op l r).evaluate scope = .ok (op.compare x y) := by
  rw [evaluate, truth, left, right]
  rfl

/-- Values are in opposite orders from both sides, and so a comparison says what its mirrored one says of
the operands in the other order. Of operands that are there and are no undefined numbers exactly one is
less, equal or greater, and the other comparisons are made of these; without an operand none holds. -/
theorem comparisons_mirror :
    (∀ u v : Value, v.compare? u = (u.compare? v).map Ordering.swap) ∧
    ∀ {scope : Scope} {l r : Expression} {x y : Option Value}, l.operand scope = .ok x →
      r.operand scope = .ok y →
      (∀ op, (compare op l r).evaluate scope = (compare op.mirrored r l).evaluate scope) ∧
      (∀ u v, x = some u → y = some v → u ≠ .double .nan → v ≠ .double .nan →
        ∃ less equal greater : Bool, [less, equal, greater].count true = 1 ∧
          (compare .lt l r).evaluate scope = .ok less ∧
          (compare .eq l r).evaluate scope = .ok equal ∧
          (compare .gt l r).evaluate scope = .ok greater ∧
          (compare .le l r).evaluate scope = .ok (less || equal) ∧
          (compare .ge l r).evaluate scope = .ok (greater || equal) ∧
          (compare .ne l r).evaluate scope = .ok (!equal)) ∧
      (x = none ∨ y = none → ∀ op, (compare op l r).evaluate scope = .ok false) := by
  refine ⟨Value.compare?_swap, ?_⟩
  intro scope l r x y left right
  have value := evaluate_compare left right
  refine ⟨?_, ?_, ?_⟩
  · intro op
    rw [value, evaluate_compare right left, op.compare_mirrored]
  · rintro u v rfl rfl definedU definedV
    have comparableU := Value.isComparable_of_ne (Expression.ne_null_of_operand left) definedU
    have comparableV := Value.isComparable_of_ne (Expression.ne_null_of_operand right) definedV
    obtain ⟨order, found, -⟩ := Value.exists_compare? comparableU comparableV
    have holds (op : Comparison) : (compare op l r).evaluate scope = .ok (op.holds order) := by
      rw [value, Comparison.compare, found]
      rfl
    refine ⟨order.isLT, order.isEq, order.isGT, ?_, holds .lt, holds .eq, holds .gt, ?_, ?_, ?_⟩
    · cases order <;> rfl
    · rw [holds]
      cases order <;> rfl
    · rw [holds]
      cases order <;> rfl
    · rw [holds]
      cases order <;> rfl
  · intro missing op
    rw [value, Comparison.compare_none missing]

theorem operands_of_compare {op : Comparison} {b : Bool}
    (value : (compare op l r).evaluate scope = .ok b) :
    ∃ x y, l.operand scope = .ok x ∧ r.operand scope = .ok y ∧ op.compare x y = b := by
  cases left : l.operand scope with
  | error err =>
    rw [evaluate, truth, left] at value
    cases value
  | ok x =>
    cases right : r.operand scope with
    | error err =>
      rw [evaluate, truth, left, right] at value
      cases value
    | ok y =>
      rw [evaluate_compare left right] at value
      exact ⟨x, y, rfl, rfl, Except.ok.inj value⟩

/-- A number and a text without one, and a number and a missing value. -/
theorem comparisons_mirror_on_amount :
    let scope : Scope := { lookup := fun name => if name = "amount" then some (.integer 12) else none }
    let amount := Expression.column none "amount"
    let word := Expression.literal (.text "9x")
    let other := Expression.column none "other"
    ((compare .lt amount word).evaluate scope = .ok true ∧
        (compare .eq amount word).evaluate scope = .ok false ∧
        (compare .gt amount word).evaluate scope = .ok false ∧
        (compare .le amount word).evaluate scope = .ok true ∧
        (compare .ge amount word).evaluate scope = .ok false ∧
        (compare .ne amount word).evaluate scope = .ok true) ∧
      (compare .gt word amount).evaluate scope = .ok true ∧
      (compare .ne amount other).evaluate scope = .ok false := by
  intro scope amount word other
  have number : amount.operand scope = .ok (some (.integer 12)) := rfl
  have text : word.operand scope = .ok (some (.text "9x")) := rfl
  have unknown : other.operand scope = .ok none := rfl
  obtain ⟨mirrors, values, -⟩ := comparisons_mirror.2 number text
  obtain ⟨less, equal, greater, one, isLess, isEqual, isGreater, atMost, atLeast, differs⟩ :=
    values _ _ rfl rfl (by simp) (by simp)
  -- As texts twelve is before nine, so that the other two do not hold.
  obtain rfl : less = true := Except.ok.inj (isLess.symm.trans (by decide))
  obtain ⟨rfl, rfl⟩ : equal = false ∧ greater = false := by
    cases equal <;> cases greater <;> simp_all
  refine ⟨⟨isLess, isEqual, isGreater, atMost, atLeast, differs⟩, ?_, ?_⟩
  · exact (mirrors .lt).symm.trans isLess
  · exact (comparisons_mirror.2 number unknown).2.2 (.inr rfl) .ne

theorem evaluate_and (c d : Condition) :
    (and c d).evaluate scope =
      c.evaluate scope >>= fun b => if b then d.evaluate scope else .ok false := rfl

def bounds (e low high : Expression) : Condition :=
  and (compare .ge e low) (compare .le e high)

section

variable {e low high : Expression} {l h : Option Value} {err : QueryError}

theorem bounds_of_below (below : (compare .ge e low).evaluate scope = .ok false) :
    (bounds e low high).evaluate scope = .ok false := by
  rw [bounds, evaluate_and, below]
  rfl

theorem bounds_of_above (above : (compare .ge e low).evaluate scope = .ok true) :
    (bounds e low high).evaluate scope = (compare .le e high).evaluate scope := by
  rw [bounds, evaluate_and, above]
  rfl

theorem bounds_of_error (fails : (compare .ge e low).evaluate scope = .error err) :
    (bounds e low high).evaluate scope = .error err := by
  rw [bounds, evaluate_and, fails]
  rfl

theorem between_of_error (fails : (compare .ge e low).evaluate scope = .error err) :
    (between e low high).evaluate scope = .error err := by
  cases operand : e.operand scope with
  | error err' =>
    rw [evaluate, truth, operand] at fails
    rw [evaluate, truth, operand]
    exact fails
  | ok x =>
    cases lower : low.operand scope with
    | error err' =>
      rw [evaluate, truth, operand, lower] at fails
      rw [evaluate, truth, operand, lower]
      exact fails
    | ok l =>
      rw [evaluate_compare operand lower] at fails
      cases fails

theorem between_of_upper_error (operand : e.operand scope = .ok x) (lower : low.operand scope = .ok l)
    (upper : high.operand scope = .error err) :
    (between e low high).evaluate scope = .error err := by
  rw [evaluate, truth, operand, lower, upper]
  rfl

theorem between_of_operands (operand : e.operand scope = .ok x) (lower : low.operand scope = .ok l)
    (upper : high.operand scope = .ok h) :
    (between e low high).evaluate scope =
      .ok (Comparison.ge.compare x l && Comparison.le.compare x h) := by
  rw [evaluate, truth, operand, lower, upper]
  apply congrArg Except.ok
  cases l with
  | none => simp only [Comparison.compare_none (.inr rfl) .ge, Option.isSome_none, Bool.false_and]
  | some low =>
    cases h with
    | none => simp only [Comparison.compare_none (.inr rfl) .le, Bool.and_false]
    | some high => rfl

theorem between_eq_bounds (settled : (compare .ge e low).evaluate scope ≠ .ok false ∨
    ∃ h, high.operand scope = .ok h) :
    (between e low high).evaluate scope = (bounds e low high).evaluate scope := by
  cases lower : (compare .ge e low).evaluate scope with
  | error err => rw [between_of_error lower, bounds_of_error lower]
  | ok b =>
    obtain ⟨x, l, operand, bound, holds⟩ := operands_of_compare lower
    cases upper : high.operand scope with
    | ok h =>
      rw [between_of_operands operand bound upper, holds]
      cases b with
      | false => rw [bounds_of_below lower, Bool.false_and]
      | true => rw [bounds_of_above lower, evaluate_compare operand upper, Bool.true_and]
    | error err =>
      have above : b = true := by
        rcases settled with decided | ⟨h, value⟩
        · cases b with
          | true => rfl
          | false => exact absurd lower decided
        · rw [upper] at value
          cases value
      subst above
      rw [between_of_upper_error operand bound upper, bounds_of_above lower, evaluate, truth, operand, upper]
      rfl

theorem between_of_missing (operand : e.operand scope = .ok x) (lower : low.operand scope = .ok l)
    (upper : high.operand scope = .ok h) (missing : x = none ∨ l = none ∨ h = none) :
    (between e low high).evaluate scope = .ok false := by
  rw [between_of_operands operand lower upper]
  rcases missing with noValue | noLower | noUpper
  · rw [Comparison.compare_none (.inl noValue), Bool.false_and]
  · rw [Comparison.compare_none (.inr noLower), Bool.false_and]
  · rw [Comparison.compare_none (.inr noUpper) .le, Bool.and_false]

end

/-- BETWEEN is what its two comparisons are, wherever its upper bound has a value or the lower comparison
does not decide. With a missing operand both are false. But where the lower comparison does not hold, an
error of the upper bound is one of BETWEEN, though the two comparisons never come to it. -/
theorem evaluate_between (scope : Scope) (e low high : Expression) :
    ((compare .ge e low).evaluate scope ≠ .ok false ∨ (∃ h, high.operand scope = .ok h) →
      (between e low high).evaluate scope = (bounds e low high).evaluate scope) ∧
    (∀ x l h, e.operand scope = .ok x → low.operand scope = .ok l → high.operand scope = .ok h →
      x = none ∨ l = none ∨ h = none →
      (between e low high).evaluate scope = .ok false ∧
        (bounds e low high).evaluate scope = .ok false) ∧
    (∀ err, (compare .ge e low).evaluate scope = .ok false → high.operand scope = .error err →
      (between e low high).evaluate scope = .error err ∧
        (bounds e low high).evaluate scope = .ok false) := by
  refine ⟨between_eq_bounds, ?_, ?_⟩
  · intro x l h operand lower upper missing
    have fails := between_of_missing operand lower upper missing
    refine ⟨fails, ?_⟩
    rw [← between_eq_bounds (.inr ⟨h, upper⟩)]
    exact fails
  · intro err below fails
    obtain ⟨x, l, operand, bound, -⟩ := operands_of_compare below
    exact ⟨between_of_upper_error operand bound fails, bounds_of_below below⟩

/-- A range that the value is in, one with an unknown bound, and one whose upper bound is too large a sum. -/
theorem evaluate_between_on_amount :
    let scope : Scope := { lookup := fun name => if name = "amount" then some (.integer 12) else none }
    let amount := Expression.column none "amount"
    let other := Expression.column none "other"
    let number (i : Int64) := Expression.literal (.integer i)
    let tooLarge := Expression.add amount (number 9223372036854775807)
    ((between amount (number 10) (number 12)).evaluate scope =
        (bounds amount (number 10) (number 12)).evaluate scope ∧
      (between amount (number 10) tooLarge).evaluate scope =
        (bounds amount (number 10) tooLarge).evaluate scope) ∧
    ((between amount other (number 12)).evaluate scope = .ok false ∧
      (bounds amount other (number 12)).evaluate scope = .ok false) ∧
    ((between amount (number 20) tooLarge).evaluate scope =
        .error (.type (.sumOverflow 12 9223372036854775807)) ∧
      (bounds amount (number 20) tooLarge).evaluate scope = .ok false) := by
  intro scope amount other number tooLarge
  have above : (compare .ge amount (number 10)).evaluate scope ≠ .ok false := by decide
  refine ⟨⟨?_, ?_⟩, ?_, ?_⟩
  · exact (evaluate_between scope amount (number 10) (number 12)).1 (.inr ⟨some (.integer 12), rfl⟩)
  · exact (evaluate_between scope amount (number 10) tooLarge).1 (.inl above)
  · exact (evaluate_between scope amount other (number 12)).2.1 (some (.integer 12)) none
      (some (.integer 12)) rfl rfl rfl (.inr (.inl rfl))
  · exact (evaluate_between scope amount (number 20) tooLarge).2.2 _ (by decide) (by decide)

/-- A value below the range fails for the sum in its upper bound, which the two comparisons never come to. -/
theorem between_fails_below_range :
    let scope : Scope := { lookup := fun _ => some (.integer 1) }
    let n := Expression.column none "N"
    let five := Expression.literal (.integer 5)
    let tooLarge := Expression.add n (.literal (.integer 9223372036854775807))
    (between n five tooLarge).evaluate scope =
        .error (.type (.sumOverflow 1 9223372036854775807)) ∧
      (and (compare .ge n five) (compare .le n tooLarge)).evaluate scope = .ok false := by
  decide

end Condition

end PlainTables
