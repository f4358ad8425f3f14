import Mathlib.Algebra.BigOperators.Group.List.Basic
import Mathlib.Algebra.Order.Group.Int
import Mathlib.Algebra.Order.BigOperators.Group.List
import Mathlib.Algebra.Ring.Int.Defs
import PlainTables.Evaluation.Scope

/-!
# Sums of integers

The integers of a group are added one row after the other, and every running total has to have 64 bits. So
the order of the rows decides whether there is a sum, but not which one it is.
-/

namespace PlainTables

def Fits (n : Int) : Prop :=
  Int64.minValue.toInt ≤ n ∧ n ≤ Int64.maxValue.toInt

instance (n : Int) : Decidable (Fits n) :=
  inferInstanceAs (Decidable (Int64.minValue.toInt ≤ n ∧ n ≤ Int64.maxValue.toInt))

theorem fits_iff {n : Int} : Fits n ↔ -2 ^ 63 ≤ n ∧ n < 2 ^ 63 := by
  have low : Int64.minValue.toInt = -2 ^ 63 := rfl
  have high : Int64.maxValue.toInt = 2 ^ 63 - 1 := rfl
  rw [Fits, low, high]
  omega

theorem Fits.toInt (i : Int64) : Fits i.toInt :=
  ⟨i.minValue_le_toInt, i.toInt_le⟩

theorem Fits.toInt_ofInt {n : Int} (fits : Fits n) : (Int64.ofInt n).toInt = n := by
  obtain ⟨low, high⟩ := fits_iff.mp fits
  exact Int64.toInt_ofInt_of_le low high

namespace Expression

/-- The operand has an integer or nothing in every row, and an integer in one of them. -/
structure IsIntegral (e : Expression) (rows : List Row) : Prop where
  each : ∀ row ∈ rows, e.evaluate (.ofRow row) = .ok .null ∨
    ∃ i, e.evaluate (.ofRow row) = .ok (.integer i)
  some : ∃ row ∈ rows, ∃ i, e.evaluate (.ofRow row) = .ok (.integer i)

theorem IsIntegral.perm {e : Expression} {rows rows' : List Row} (integral : e.IsIntegral rows)
    (order : rows'.Perm rows) : e.IsIntegral rows' := by
  obtain ⟨row, mem, integer⟩ := integral.some
  constructor
  · intro row mem
    exact integral.each row (order.mem_iff.mp mem)
  · exact ⟨row, order.mem_iff.mpr mem, integer⟩

def amount (e : Expression) (row : Row) : Int :=
  match e.evaluate (.ofRow row) with
  | .ok (.integer i) => i.toInt
  | _ => 0

def total (e : Expression) (rows : List Row) : Int :=
  (rows.map e.amount).sum

def valueCount (e : Expression) (rows : List Row) : Nat :=
  rows.countP fun row => e.evaluate (.ofRow row) ≠ .ok .null

/-- Added up row by row from the start, the operand never leaves the integers of 64 bits. -/
def StaysWithin (e : Expression) (start : Int) (rows : List Row) : Prop :=
  ∀ n, Fits (start + e.total (rows.take n))

variable {e : Expression} {rows : List Row} {row : Row} {start : Int}

theorem amount_null (null : e.evaluate (.ofRow row) = .ok .null) : e.amount row = 0 := by
  rw [amount, null]

theorem amount_integer {i : Int64} (integer : e.evaluate (.ofRow row) = .ok (.integer i)) :
    e.amount row = i.toInt := by
  rw [amount, integer]

theorem fits_amount (e : Expression) (row : Row) : Fits (e.amount row) := by
  unfold amount
  split
  · exact Fits.toInt _
  · exact Fits.toInt 0

theorem total_nil (e : Expression) : e.total [] = 0 := rfl

theorem total_cons (e : Expression) (row : Row) (rows : List Row) :
    e.total (row :: rows) = e.amount row + e.total rows := by
  rw [total, List.map_cons, List.sum_cons, total]

theorem total_perm {rows' : List Row} (order : rows'.Perm rows) : e.total rows' = e.total rows :=
  (order.map e.amount).sum_eq

theorem staysWithin_nil : e.StaysWithin start [] ↔ Fits start := by
  simp [StaysWithin, total_nil]

theorem staysWithin_cons :
    e.StaysWithin start (row :: rows) ↔
      Fits start ∧ e.StaysWithin (start + e.amount row) rows := by
  constructor
  · intro within
    constructor
    · simpa [total_nil] using within 0
    · intro n
      have further := within (n + 1)
      rw [List.take_succ_cons, total_cons, ← Int.add_assoc] at further
      exact further
  · rintro ⟨fits, within⟩ n
    cases n with
    | zero => simpa [total_nil] using fits
    | succ n =>
      rw [List.take_succ_cons, total_cons, ← Int.add_assoc]
      exact within n

theorem StaysWithin.fits_start (within : e.StaysWithin start rows) : Fits start := by
  simpa [total_nil] using within 0

theorem StaysWithin.fits (within : e.StaysWithin start rows) : Fits (start + e.total rows) := by
  simpa using within rows.length

theorem total_nonneg (positive : ∀ row ∈ rows, 0 ≤ e.amount row) : 0 ≤ e.total rows := by
  induction rows with
  | nil => exact Int.le_refl 0
  | cons row rows ih =>
    obtain ⟨first, others⟩ := List.forall_mem_cons.mp positive
    rw [total_cons]
    exact Int.add_nonneg first (ih others)

theorem total_nonpos (negative : ∀ row ∈ rows, e.amount row ≤ 0) : e.total rows ≤ 0 := by
  induction rows with
  | nil => exact Int.le_refl 0
  | cons row rows ih =>
    obtain ⟨first, others⟩ := List.forall_mem_cons.mp negative
    have rest := ih others
    rw [total_cons]
    omega

/-- Where no two amounts have opposite signs, only the last total matters. -/
theorem staysWithin_of_sign (first : Fits start) (last : Fits (start + e.total rows))
    (sign : (∀ row ∈ rows, 0 ≤ e.amount row) ∨ ∀ row ∈ rows, e.amount row ≤ 0) :
    e.StaysWithin start rows := by
  intro n
  have parts : e.total rows = e.total (rows.take n) + e.total (rows.drop n) := by
    rw [total, total, total, ← List.sum_append, ← List.map_append, List.take_append_drop]
  rw [fits_iff] at first last ⊢
  rcases sign with positive | negative
  · have front := total_nonneg fun row mem => positive row (List.mem_of_mem_take (i := n) mem)
    have back := total_nonneg fun row mem => positive row (List.mem_of_mem_drop (i := n) mem)
    omega
  · have front := total_nonpos fun row mem => negative row (List.mem_of_mem_take (i := n) mem)
    have back := total_nonpos fun row mem => negative row (List.mem_of_mem_drop (i := n) mem)
    omega

/-- If the whole total fits, some order of the rows keeps all totals on the way inside: a row that leads
back towards zero is taken first. -/
theorem exists_staysWithin (first : Fits start) (last : Fits (start + e.total rows)) :
    ∃ rows', rows'.Perm rows ∧ e.StaysWithin start rows' := by
  induction size : rows.length generalizing rows start with
  | zero =>
    obtain rfl := List.length_eq_zero_iff.mp size
    exact ⟨[], .refl _, staysWithin_nil.mpr first⟩
  | succ n ih =>
    by_cases sign : (∀ row ∈ rows, 0 ≤ e.amount row) ∨ ∀ row ∈ rows, e.amount row ≤ 0
    · exact ⟨rows, .refl _, staysWithin_of_sign first last sign⟩
    -- There are amounts of both signs, and one of them leads towards zero.
    obtain ⟨row, mem, fits⟩ : ∃ row ∈ rows, Fits (start + e.amount row) := by
      simp only [not_or, not_forall, not_le] at sign
      obtain ⟨⟨down, downMem, negative⟩, ⟨up, upMem, positive⟩⟩ := sign
      have downFits := fits_iff.mp (fits_amount e down)
      have upFits := fits_iff.mp (fits_amount e up)
      rw [fits_iff] at first
      by_cases above : 0 ≤ start
      · exact ⟨down, downMem, fits_iff.mpr (by omega)⟩
      · exact ⟨up, upMem, fits_iff.mpr (by omega)⟩
    obtain ⟨before, behind, rfl⟩ := List.append_of_mem mem
    have order : (row :: (before ++ behind)).Perm (before ++ row :: behind) :=
      List.perm_middle.symm
    have shorter : (before ++ behind).length = n := by
      rw [List.length_append, List.length_cons] at size
      rw [List.length_append]
      omega
    have rest : Fits (start + e.amount row + e.total (before ++ behind)) := by
      rw [Int.add_assoc, ← total_cons, total_perm order]
      exact last
    obtain ⟨rows', perm, within⟩ := ih fits rest shorter
    exact ⟨row :: rows', (perm.cons row).trans order, staysWithin_cons.mpr ⟨first, within⟩⟩

end Expression

/-- The integers that an operand has in rows, one row after the other. -/
inductive Expression.Lists (e : Expression) : List Row → List Int64 → Prop
  | nil : e.Lists [] []
  | null {row : Row} {rows : List Row} {integers : List Int64} :
      e.evaluate (.ofRow row) = .ok .null → e.Lists rows integers → e.Lists (row :: rows) integers
  | integer {row : Row} {i : Int64} {rows : List Row} {integers : List Int64} :
      e.evaluate (.ofRow row) = .ok (.integer i) → e.Lists rows integers →
      e.Lists (row :: rows) (i :: integers)

namespace Expression

variable {e : Expression} {rows : List Row} {integers : List Int64}

theorem exists_lists (each : ∀ row ∈ rows, e.evaluate (.ofRow row) = .ok .null ∨
    ∃ i, e.evaluate (.ofRow row) = .ok (.integer i)) : ∃ integers, e.Lists rows integers := by
  induction rows with
  | nil => exact ⟨[], .nil⟩
  | cons row rows ih =>
    obtain ⟨first, others⟩ := List.forall_mem_cons.mp each
    obtain ⟨integers, lists⟩ := ih others
    rcases first with null | ⟨i, integer⟩
    · exact ⟨integers, .null null lists⟩
    · exact ⟨i :: integers, .integer integer lists⟩

theorem Lists.values (lists : e.Lists rows integers) :
    ∃ vs, rows.mapM (fun row => e.evaluate (.ofRow row)) = .ok vs ∧
      vs.filter (!·.isNull) = integers.map .integer := by
  induction lists with
  | nil => exact ⟨[], rfl, rfl⟩
  | null null _ ih =>
    obtain ⟨vs, values, kept⟩ := ih
    refine ⟨.null :: vs, ?_, ?_⟩
    · rw [List.mapM_cons, null, values]
      rfl
    · rw [List.filter_cons_of_neg (by simp [Value.isNull]), kept]
  | @integer row i rows integers integer _ ih =>
    obtain ⟨vs, values, kept⟩ := ih
    refine ⟨.integer i :: vs, ?_, ?_⟩
    · rw [List.mapM_cons, integer, values]
      rfl
    · rw [List.filter_cons_of_pos rfl, kept, List.map_cons]

theorem Lists.length_eq (lists : e.Lists rows integers) : integers.length = e.valueCount rows := by
  induction lists with
  | nil => rfl
  | null null _ ih => rw [ih, valueCount, valueCount, List.countP_cons_of_neg (by simp [null])]
  | integer integer _ ih =>
    rw [List.length_cons, ih, valueCount, valueCount, List.countP_cons_of_pos (by simp [integer])]

theorem Lists.ne_nil (lists : e.Lists rows integers) (integral : e.IsIntegral rows) :
    integers ≠ [] := by
  obtain ⟨row, mem, i, integer⟩ := integral.some
  have counted : 0 < e.valueCount rows :=
    List.countP_pos_iff.mpr ⟨row, mem, by simp [integer]⟩
  rw [← lists.length_eq] at counted
  exact List.ne_nil_of_length_pos counted

/-- A running total that fits is kept as it is, and the first one that does not ends the addition. -/
theorem Lists.foldlM_add (lists : e.Lists rows integers) (label : String) (start : Int64) :
    (e.StaysWithin start.toInt rows →
      ∃ sum : Int64, sum.toInt = start.toInt + e.total rows ∧
        (integers.map Value.integer).foldlM (Aggregate.Total.add label) ⟨start, none⟩ =
          .ok ⟨sum, none⟩) ∧
    (¬ e.StaysWithin start.toInt rows →
      (integers.map Value.integer).foldlM (Aggregate.Total.add label) ⟨start, none⟩ =
        .error (.type (.aggregateOverflow label))) := by
  induction lists generalizing start with
  | nil =>
    constructor
    · intro _
      exact ⟨start, by simp [total_nil], rfl⟩
    · intro leaves
      exact absurd (staysWithin_nil.mpr (Fits.toInt start)) leaves
  | null null _ ih =>
    rw [staysWithin_cons, total_cons, amount_null null, Int.add_zero, Int.zero_add]
    simp only [Fits.toInt, true_and]
    exact ih start
  | @integer row i rows integers integer _ ih =>
    rw [staysWithin_cons, total_cons, amount_integer integer, ← Int.add_assoc]
    simp only [Fits.toInt, true_and]
    rw [List.map_cons, List.foldlM_cons]
    by_cases fits : Fits (start.toInt + i.toInt)
    · have added : Aggregate.Total.add label ⟨start, none⟩ (.integer i) =
          .ok ⟨Int64.ofInt (start.toInt + i.toInt), none⟩ := by
        have sum : Value.addInt64? start i = some (Int64.ofInt (start.toInt + i.toInt)) :=
          if_pos fits
        simp only [Aggregate.Total.add, sum]
      have rest := ih (Int64.ofInt (start.toInt + i.toInt))
      rw [fits.toInt_ofInt] at rest
      rw [added]
      exact rest
    · have overflows : Aggregate.Total.add label ⟨start, none⟩ (.integer i) =
          .error (.type (.aggregateOverflow label)) := by
        have none : Value.addInt64? start i = none := if_neg fits
        simp only [Aggregate.Total.add, none]
      rw [overflows]
      constructor
      · intro within
        exact absurd within.fits_start fits
      · intro _
        rfl

theorem Lists.sumOf_eq (lists : e.Lists rows integers) (integral : e.IsIntegral rows)
    (label : String) :
    (e.StaysWithin 0 rows →
      ∃ sum : Int64, sum.toInt = e.total rows ∧
        Aggregate.sumOf label (integers.map .integer) = .ok (.integer sum)) ∧
    (¬ e.StaysWithin 0 rows →
      Aggregate.sumOf label (integers.map .integer) =
        .error (.type (.aggregateOverflow label))) := by
  have some : (integers.map Value.integer).isEmpty = false := by
    simpa using lists.ne_nil integral
  obtain ⟨fits, overflows⟩ := lists.foldlM_add label 0
  unfold Aggregate.sumOf
  rw [some]
  constructor
  · intro within
    obtain ⟨sum, value, added⟩ := fits within
    refine ⟨sum, by simpa using value, ?_⟩
    rw [if_neg Bool.false_ne_true]
    exact congrArg (Except.map _) added
  · intro leaves
    rw [if_neg Bool.false_ne_true]
    exact congrArg (Except.map _) (overflows leaves)

theorem Lists.evaluate_aggregate (lists : e.Lists rows integers) (f : Aggregate)
    (columns : List OutputColumn) (outputs : List Value) :
    (aggregate f e).evaluate (.ofGroup columns outputs rows) =
      f.apply (aggregate f e).text (integers.map .integer) := by
  obtain ⟨vs, values, kept⟩ := lists.values
  simp only [evaluate, Scope.ofGroup]
  rw [values]
  change f.apply _ (vs.filter (!·.isNull)) = _
  rw [kept]

/-- The order of the rows decides whether a group of integers has a sum and a mean, but not which. There
are both where every running total has 64 bits. Some order has them if the whole sum has 64 bits, and
where all integers have one sign every order has. -/
theorem sum_of_integers (integral : e.IsIntegral rows) (columns : List OutputColumn)
    (outputs : List Value) :
    (∀ rows', rows'.Perm rows →
      (e.StaysWithin 0 rows' → ∃ sum : Int64, sum.toInt = e.total rows ∧
        (aggregate .sum e).evaluate (.ofGroup columns outputs rows') = .ok (.integer sum) ∧
        (aggregate .avg e).evaluate (.ofGroup columns outputs rows') =
          .ok (.double ((Double.ofInt (e.total rows)).div (Double.ofInt (e.valueCount rows))))) ∧
      (¬ e.StaysWithin 0 rows' →
        (aggregate .sum e).evaluate (.ofGroup columns outputs rows') =
          .error (.type (.aggregateOverflow (aggregate .sum e).text)) ∧
        (aggregate .avg e).evaluate (.ofGroup columns outputs rows') =
          .error (.type (.aggregateOverflow (aggregate .avg e).text)))) ∧
    ((∃ rows', rows'.Perm rows ∧ e.StaysWithin 0 rows') ↔ Fits (e.total rows)) ∧
    ((∀ row ∈ rows, 0 ≤ e.amount row) ∨ (∀ row ∈ rows, e.amount row ≤ 0) →
      (e.StaysWithin 0 rows ↔ Fits (e.total rows))) := by
  refine ⟨fun rows' order => ?_, ⟨?_, ?_⟩, fun sign => ⟨?_, ?_⟩⟩
  · have integral' := integral.perm order
    obtain ⟨integers, lists⟩ := exists_lists integral'.each
    obtain ⟨sum, noSum⟩ := lists.sumOf_eq integral' (aggregate .sum e).text
    obtain ⟨mean, noMean⟩ := lists.sumOf_eq integral' (aggregate .avg e).text
    have count : integers.length = e.valueCount rows :=
      lists.length_eq.trans (order.countP_eq _)
    rw [lists.evaluate_aggregate, lists.evaluate_aggregate, ← total_perm order]
    simp only [Aggregate.apply, Aggregate.meanOf]
    constructor
    · intro within
      obtain ⟨s, value, found⟩ := sum within
      obtain ⟨m, value', found'⟩ := mean within
      refine ⟨s, value, found, ?_⟩
      rw [found', List.length_map, count, ← value']
      rfl
    · intro leaves
      rw [noSum leaves, noMean leaves]
      exact ⟨rfl, rfl⟩
  · rintro ⟨rows', order, within⟩
    have fits := within.fits
    rw [Int.zero_add, total_perm order] at fits
    exact fits
  · intro fits
    exact exists_staysWithin (Fits.toInt 0) (by rw [Int.zero_add]; exact fits)
  · intro within
    have fits := within.fits
    rw [Int.zero_add] at fits
    exact fits
  · intro fits
    exact staysWithin_of_sign (Fits.toInt 0) (by rw [Int.zero_add]; exact fits) sign

/-- The largest integer goes down by one and up again. -/
theorem sum_of_largest_integer :
    (aggregate .sum (column none "n")).evaluate (.ofGroup [] []
        ([.integer 9223372036854775807, .null, .integer (-1), .integer 1].map
          fun v => ⟨⟨["n"]⟩, [v]⟩)) = .ok (.integer 9223372036854775807) := by
  have integral : (column none "n").IsIntegral
      ([.integer 9223372036854775807, .null, .integer (-1), .integer 1].map
        fun v => ⟨⟨["n"]⟩, [v]⟩) := by
    constructor
    · intro row mem
      simp only [List.map_cons, List.map_nil, List.mem_cons, List.not_mem_nil, or_false] at mem
      rcases mem with rfl | rfl | rfl | rfl
      · exact .inr ⟨_, rfl⟩
      · exact .inl rfl
      · exact .inr ⟨_, rfl⟩
      · exact .inr ⟨_, rfl⟩
    · exact ⟨_, List.mem_cons_self, _, rfl⟩
  have within : (column none "n").StaysWithin 0
      ([.integer 9223372036854775807, .null, .integer (-1), .integer 1].map
        fun v => ⟨⟨["n"]⟩, [v]⟩) := by
    simp only [List.map_cons, List.map_nil, staysWithin_cons, staysWithin_nil]
    decide +kernel
  obtain ⟨sum, value, found, -⟩ := ((sum_of_integers integral [] []).1 _ (.refl _)).1 within
  have largest : sum = 9223372036854775807 := by
    refine Int64.toInt_inj.mp (value.trans ?_)
    decide +kernel
  rw [found, largest]

/-- The same integers in another order have neither a sum nor a mean. -/
theorem no_sum_of_largest_integer :
    (column none "n").IsIntegral ([9223372036854775807, 1, -1].map fun i => ⟨⟨["n"]⟩, [.integer i]⟩) ∧
      Fits ((column none "n").total
        ([9223372036854775807, 1, -1].map fun i => ⟨⟨["n"]⟩, [.integer i]⟩)) ∧
      ∀ f ∈ [Aggregate.sum, .avg],
        (aggregate f (column none "n")).evaluate (.ofGroup [] []
            ([9223372036854775807, 1, -1].map fun i => ⟨⟨["n"]⟩, [.integer i]⟩)) =
          .error (.type (.aggregateOverflow (f.name ++ "([N])"))) := by
  refine ⟨⟨?_, ?_⟩, by decide +kernel, by decide +kernel⟩
  · intro row mem
    obtain ⟨i, -, rfl⟩ := List.mem_map.mp mem
    exact .inr ⟨i, rfl⟩
  · exact ⟨_, List.mem_cons_self, _, rfl⟩

end Expression

end PlainTables
