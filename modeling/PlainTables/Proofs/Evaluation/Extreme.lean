import Mathlib.Data.List.Induction
import Mathlib.Data.List.Perm.Basic
import PlainTables.Evaluation.Scope
import PlainTables.Proofs.Query.Order
import PlainTables.Proofs.Query.Whole

/-!
# Least and greatest values

MIN and MAX go through the values of a group and keep the one that no later value is beyond. Where all values
are of one type, and this is not the one of doubles, the value that is kept is beyond all others, and it is
the same one for every order of the rows.
-/

namespace PlainTables

open Std

namespace Value

theorem null_compare? (v : Value) : null.compare? v = none := rfl

theorem compare?_trans {u v w : Value} {wanted : Ordering} (hu : u.isComparable = true)
    (hv : v.isComparable = true) (hw : w.isComparable = true) (sameUV : u.type = v.type)
    (sameVW : v.type = w.type) (first : u.compare? v = some wanted)
    (second : v.compare? w = some wanted) : u.compare? w = some wanted := by
  rw [compare?_eq_lineUp hu hv sameUV] at first
  rw [compare?_eq_lineUp hv hw sameVW] at second
  rw [compare?_eq_lineUp hu hw (sameUV.trans sameVW)]
  have first := Option.some.inj first
  have second := Option.some.inj second
  apply congrArg some
  cases wanted with
  | lt => exact TransCmp.lt_trans first second
  | eq => exact TransCmp.eq_trans first second
  | gt => exact TransCmp.gt_trans first second

end Value

namespace Aggregate

/-- The values are there and all of one type, of which each value has its own place in the line. -/
structure IsLine (type : DataType) (vs : List Value) : Prop where
  there : ∀ v ∈ vs, v ≠ .null
  sameType : ∀ v ∈ vs, v.type = type
  single : type ≠ .double

structure IsExtreme (wanted : Ordering) (vs : List Value) (m : Value) : Prop where
  mem : m ∈ vs
  unbeaten : ∀ v ∈ vs, v.compare? m ≠ some wanted

variable {type : DataType} {wanted : Ordering} {vs vs' : List Value} {u v m : Value}

namespace IsLine

theorem comparable (line : IsLine type vs) (mem : v ∈ vs) : v.isComparable = true := by
  apply Value.isComparable_of_type (line.there v mem)
  rw [line.sameType v mem]
  exact line.single

theorem compare_eq (line : IsLine type vs) (memU : u ∈ vs) (memV : v ∈ vs) :
    u.compare? v = some (u.lineUp v) := by
  apply Value.compare?_eq_lineUp (line.comparable memU) (line.comparable memV)
  rw [line.sameType u memU, line.sameType v memV]

theorem of_subset (line : IsLine type vs) (within : ∀ v ∈ vs', v ∈ vs) : IsLine type vs' where
  there v mem := line.there v (within v mem)
  sameType v mem := line.sameType v (within v mem)
  single := line.single

end IsLine

theorem IsExtreme.perm (extreme : IsExtreme wanted vs m) (order : vs'.Perm vs) :
    IsExtreme wanted vs' m where
  mem := order.mem_iff.mpr extreme.mem
  unbeaten v mem := extreme.unbeaten v (order.mem_iff.mp mem)

/-- Of two values that are both unbeaten neither is before the other, and so they are one value. -/
theorem IsExtreme.unique (line : IsLine type vs) (direction : wanted ≠ .eq)
    (first : IsExtreme wanted vs u) (second : IsExtreme wanted vs v) : u = v := by
  have notBeyond := first.unbeaten v second.mem
  have notBehind := second.unbeaten u first.mem
  rw [line.compare_eq second.mem first.mem] at notBeyond
  rw [line.compare_eq first.mem second.mem] at notBehind
  have level : u.lineUp v = .eq := by
    rw [@OrientedCmp.eq_swap _ Value.lineUp _ v u] at notBeyond
    cases order : u.lineUp v <;> cases wanted <;> simp_all
  apply Value.eq_of_lineUp _ _ (line.there u first.mem) (line.there v second.mem) level
  · rw [line.sameType u first.mem, line.sameType v second.mem]
  · rw [line.sameType u first.mem]
    exact line.single

def better (wanted : Ordering) (kept v : Value) : Value :=
  if v.compare? kept = some wanted then v else kept

theorem extremeOf_cons (wanted : Ordering) (v : Value) (vs : List Value) :
    extremeOf wanted (v :: vs) = vs.foldl (better wanted) v := by
  have keeps {step : Option Value → Value → Option Value}
      (same : ∀ kept v, step (some kept) v = some (better wanted kept v)) (vs : List Value)
      (kept : Value) : vs.foldl step (some kept) = some (vs.foldl (better wanted) kept) := by
    induction vs generalizing kept with
    | nil => rfl
    | cons v vs ih => rw [List.foldl_cons, List.foldl_cons, same, ih]
  refine congrArg (fun best => best.getD .null) (keeps ?_ vs v)
  intro kept v
  exact (apply_ite some _ v kept).symm

/-- One more value takes the place of the one that has been kept only if it is beyond it. -/
theorem extremeOf_concat (some : vs ≠ []) (wanted : Ordering) (v : Value) :
    extremeOf wanted (vs ++ [v]) = better wanted (extremeOf wanted vs) v := by
  cases vs with
  | nil => exact absurd rfl some
  | cons u vs =>
    rw [List.cons_append, extremeOf_cons, extremeOf_cons, List.foldl_append, List.foldl_cons,
      List.foldl_nil]

theorem IsLine.not_beyond_self (line : IsLine type vs) (mem : v ∈ vs) (direction : wanted ≠ .eq) :
    v.compare? v ≠ some wanted := by
  rw [line.compare_eq mem mem, @ReflCmp.compare_self _ Value.lineUp _ v]
  intro same
  exact direction (Option.some.inj same).symm

theorem isExtreme_singleton (line : IsLine type [v]) (direction : wanted ≠ .eq) :
    IsExtreme wanted [v] v where
  mem := List.mem_singleton_self v
  unbeaten u mem := by
    rw [List.mem_singleton.mp mem]
    exact line.not_beyond_self (List.mem_singleton_self v) direction

/-- What is beyond a value that takes the place of the old one is beyond the old one, too. -/
theorem IsExtreme.concat_beyond (extreme : IsExtreme wanted vs m) (line : IsLine type (vs ++ [v]))
    (direction : wanted ≠ .eq) (beyond : v.compare? m = some wanted) :
    IsExtreme wanted (vs ++ [v]) v := by
  have memV : v ∈ vs ++ [v] := List.mem_append_right vs (List.mem_singleton_self v)
  have memM : m ∈ vs ++ [v] := List.mem_append_left [v] extreme.mem
  refine ⟨memV, ?_⟩
  intro u mem
  rcases List.mem_append.mp mem with earlier | last
  · intro further
    apply extreme.unbeaten u earlier
    apply Value.compare?_trans (line.comparable mem) (line.comparable memV) (line.comparable memM) _ _
      further beyond
    · rw [line.sameType u mem, line.sameType v memV]
    · rw [line.sameType v memV, line.sameType m memM]
  · rw [List.mem_singleton.mp last]
    exact line.not_beyond_self memV direction

theorem IsExtreme.concat_kept (extreme : IsExtreme wanted vs m) (kept : v.compare? m ≠ some wanted) :
    IsExtreme wanted (vs ++ [v]) m := by
  refine ⟨List.mem_append_left [v] extreme.mem, ?_⟩
  intro u mem
  rcases List.mem_append.mp mem with earlier | last
  · exact extreme.unbeaten u earlier
  · rw [List.mem_singleton.mp last]
    exact kept

theorem isExtreme_extremeOf (line : IsLine type vs) (some : vs ≠ []) (direction : wanted ≠ .eq) :
    IsExtreme wanted vs (extremeOf wanted vs) := by
  induction vs using List.reverseRecOn with
  | nil => exact absurd rfl some
  | append_singleton vs v ih =>
    by_cases none : vs = []
    · subst none
      exact isExtreme_singleton line direction
    · have extreme := ih (line.of_subset fun u mem => List.mem_append_left _ mem) none
      rw [extremeOf_concat none, better]
      split
      · next beyond => exact extreme.concat_beyond line direction beyond
      · next kept => exact extreme.concat_kept kept

theorem extremeOf_perm (line : IsLine type vs) (direction : wanted ≠ .eq) (order : vs'.Perm vs) :
    extremeOf wanted vs' = extremeOf wanted vs := by
  by_cases none : vs = []
  · subst none
    rw [order.eq_nil]
  · have none' : vs' ≠ [] := by
      intro empty
      rw [empty] at order
      exact none order.nil_eq.symm
    have line' : IsLine type vs' := line.of_subset fun v mem => order.mem_iff.mp mem
    have extreme := isExtreme_extremeOf line none direction
    have extreme' := isExtreme_extremeOf line' none' direction
    exact (extreme'.perm order.symm).unique line direction extreme

/-- The value that MIN looks for is before the others, and the one of MAX behind them. -/
def Seeks : Aggregate → Ordering → Prop
  | min, wanted => wanted = .lt
  | max, wanted => wanted = .gt
  | _, _ => False

theorem Seeks.direction {f : Aggregate} (seeks : f.Seeks wanted) : wanted ≠ .eq := by
  cases f with
  | min =>
    cases seeks
    decide
  | max =>
    cases seeks
    decide
  | count | sum | avg => cases seeks

theorem Seeks.apply_eq {f : Aggregate} (seeks : f.Seeks wanted) (label : String)
    (vs : List Value) : f.apply label vs = .ok (extremeOf wanted vs) := by
  cases f with
  | min =>
    cases seeks
    rfl
  | max =>
    cases seeks
    rfl
  | count | sum | avg => cases seeks

end Aggregate

namespace Expression

variable {e : Expression} {rows rows' : List Row} {vs : List Value}

theorem exists_values_of_perm (values : rows.mapM (fun row => e.evaluate (.ofRow row)) = .ok vs)
    (order : rows'.Perm rows) :
    ∃ vs', rows'.mapM (fun row => e.evaluate (.ofRow row)) = .ok vs' ∧ vs'.Perm vs := by
  obtain ⟨vs', values', order'⟩ := List.perm_comp_forall₂ order (mapM_eq_ok_iff.mp values)
  exact ⟨vs', mapM_eq_ok_iff.mpr values', order'⟩

theorem evaluate_aggregate {scope : Scope} (grouped : scope.group = some rows)
    (values : rows.mapM (fun row => e.evaluate (.ofRow row)) = .ok vs) (f : Aggregate) :
    (aggregate f e).evaluate scope = f.apply (aggregate f e).text (vs.filter (!·.isNull)) := by
  simp only [evaluate, grouped, values]
  rfl

theorem mem_there {v : Value} : v ∈ vs.filter (!·.isNull) ↔ v ∈ vs ∧ v ≠ .null := by
  rw [List.mem_filter]
  apply and_congr_right
  intro _
  cases v <;> simp [Value.isNull]

section

variable {type : DataType} {wanted : Ordering}

theorem line_there (sameType : ∀ v ∈ vs, v ≠ .null → v.type = type) (single : type ≠ .double) :
    Aggregate.IsLine type (vs.filter (!·.isNull)) := by
  constructor
  · intro v mem
    exact (mem_there.mp mem).2
  · intro v mem
    have inside := mem_there.mp mem
    exact sameType v inside.1 inside.2
  · exact single

/-- The value that is kept is `null` if there is no other one, or else it is unbeaten. -/
theorem extremeOf_there (line : Aggregate.IsLine type (vs.filter (!·.isNull)))
    (direction : wanted ≠ .eq) :
    (∀ v ∈ vs, v = .null) ∧ Aggregate.extremeOf wanted (vs.filter (!·.isNull)) = .null ∨
      Aggregate.IsExtreme wanted (vs.filter (!·.isNull))
        (Aggregate.extremeOf wanted (vs.filter (!·.isNull))) := by
  by_cases none : vs.filter (!·.isNull) = []
  · left
    constructor
    · intro v mem
      by_contra there
      exact List.ne_nil_of_mem (mem_there.mpr ⟨mem, there⟩) none
    · rw [none]
      rfl
  · right
    exact Aggregate.isExtreme_extremeOf line none direction

end

/-- Where the values of an operand in some rows, `null` left out, are all of one type and no doubles, MIN and
MAX are `null` if there are none; otherwise they are one of the values, and no value is beyond it. They are
the same for every order of the rows. -/
theorem extreme_of_values {type : DataType}
    (values : rows.mapM (fun row => e.evaluate (.ofRow row)) = .ok vs)
    (sameType : ∀ v ∈ vs, v ≠ .null → v.type = type) (single : type ≠ .double) {f : Aggregate}
    {wanted : Ordering} (seeks : f.Seeks wanted) :
    ∃ m, (m = .null ↔ ∀ v ∈ vs, v = .null) ∧ (m ≠ .null → m ∈ vs) ∧
      (∀ v ∈ vs, v.compare? m ≠ some wanted) ∧
      ∀ rows', rows'.Perm rows → ∀ scope : Scope, scope.group = some rows' →
        (aggregate f e).evaluate scope = .ok m := by
  have line : Aggregate.IsLine type (vs.filter (!·.isNull)) := line_there sameType single
  have same (rows' : List Row) (order : rows'.Perm rows) (scope : Scope)
      (grouped : scope.group = some rows') : (aggregate f e).evaluate scope =
        .ok (Aggregate.extremeOf wanted (vs.filter (!·.isNull))) := by
    obtain ⟨vs', values', order'⟩ := exists_values_of_perm values order
    rw [evaluate_aggregate grouped values', seeks.apply_eq]
    apply congrArg Except.ok
    exact Aggregate.extremeOf_perm line seeks.direction (order'.filter _)
  have null_unbeaten (m : Value) : Value.compare? .null m ≠ some wanted := by
    rw [Value.null_compare?]
    exact (Option.some_ne_none wanted).symm
  rcases extremeOf_there line seeks.direction with ⟨nulls, isNull⟩ | extreme
  · rw [isNull] at same
    refine ⟨.null, ⟨fun _ => nulls, fun _ => rfl⟩, ?_, ?_, same⟩
    · intro there
      exact absurd rfl there
    · intro v mem
      rw [nulls v mem]
      exact null_unbeaten .null
  · have inside := mem_there.mp extreme.mem
    refine ⟨_, ⟨?_, ?_⟩, fun _ => inside.1, ?_, same⟩
    · intro isNull
      exact absurd isNull inside.2
    · intro nulls
      exact nulls _ inside.1
    · intro v mem
      by_cases there : v = .null
      · rw [there]
        exact null_unbeaten _
      · exact extreme.unbeaten v (mem_there.mpr ⟨mem, there⟩)

/-- The last of two words, with a missing one between them. -/
theorem extreme_of_words :
    let words : List Value := [.text "pear", .null, .text "plum"]
    let rows : List Row := words.map fun v => ⟨⟨["n"]⟩, [v]⟩
    ∃ m, m ∈ words ∧ (∀ v ∈ words, v.compare? m ≠ some .gt) ∧
      (aggregate .max (column none "n")).evaluate (.ofGroup [] [] rows) = .ok m ∧
      (aggregate .max (column none "n")).evaluate (.ofGroup [] [] rows.reverse) = .ok m := by
  intro words rows
  have values : rows.mapM (fun row => (column none "n").evaluate (.ofRow row)) = .ok words := rfl
  have texts : ∀ v ∈ words, v ≠ .null → v.type = .string := by decide
  have seeks : Aggregate.max.Seeks .gt := rfl
  obtain ⟨m, null, mem, unbeaten, same⟩ := extreme_of_values values texts (by decide) seeks
  have there : m ≠ .null := by
    intro none
    exact absurd (null.mp none _ List.mem_cons_self) (by decide)
  refine ⟨m, mem there, unbeaten, ?_, ?_⟩
  · exact same rows (.refl rows) _ rfl
  · exact same rows.reverse rows.reverse_perm _ rfl

end Expression

end PlainTables
