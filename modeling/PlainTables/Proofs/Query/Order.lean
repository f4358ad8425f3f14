import Mathlib.Data.List.Forall2
import PlainTables.Proofs.Value.Order
import PlainTables.Query.Result

/-!
# The order of rows

ORDER BY compares rows by the first of their keys that differ. Keys of one type are in one line with
`null` in front, and so are rows whose keys of each item are. Sorting such rows puts them in their order
and leaves rows with equal keys as they were.
-/

namespace PlainTables

open Std

theorem transCmp_on {α β : Type} (cmp : β → β → Ordering) [TransCmp cmp] (f : α → β) :
    TransCmp fun a b => cmp (f a) (f b) where
  eq_swap := OrientedCmp.eq_swap
  isLE_trans := TransCmp.isLE_trans

section

variable {α κ : Type} (cmp : κ → κ → Ordering) [TransCmp cmp] (key : α → κ)

theorem notAfter_trans (a b c : α) (ab : decide (cmp (key a) (key b) ≠ .gt) = true)
    (bc : decide (cmp (key b) (key c) ≠ .gt) = true) : decide (cmp (key a) (key c) ≠ .gt) = true := by
  simp only [ne_eq, ← Ordering.isLE_iff_ne_gt, decide_eq_true_eq] at ab bc ⊢
  exact TransCmp.isLE_trans ab bc

theorem notAfter_total (a b : α) :
    (decide (cmp (key a) (key b) ≠ .gt) || decide (cmp (key b) (key a) ≠ .gt)) = true := by
  rw [@OrientedCmp.eq_swap _ cmp _ (key b) (key a)]
  cases cmp (key a) (key b) <;> rfl

theorem filter_mergeSort [DecidableEq κ] (items : List α) (k : κ) :
    (items.mergeSort fun a b => cmp (key a) (key b) ≠ .gt).filter (fun a => key a = k) =
      items.filter fun a => key a = k := by
  have level : (items.filter fun a => key a = k).Pairwise
      fun a b => decide (cmp (key a) (key b) ≠ .gt) = true := by
    refine List.pairwise_of_forall_mem_list fun a memA b memB => ?_
    have sameA : key a = k := of_decide_eq_true (List.mem_filter.mp memA).2
    have sameB : key b = k := of_decide_eq_true (List.mem_filter.mp memB).2
    rw [sameA, sameB, @ReflCmp.compare_self _ cmp]
    rfl
  have kept := (List.sublist_mergeSort (notAfter_trans cmp key) (notAfter_total cmp key) level
    List.filter_sublist).filter fun a => key a = k
  rw [List.filter_filter] at kept
  simp only [Bool.and_self] at kept
  exact (kept.eq_of_length ((List.mergeSort_perm items _).filter _).length_eq.symm).symm

end

namespace Value

/-- Both values are `null` or of one type, which is not that of doubles. -/
def Alike (u v : Value) : Prop :=
  ∃ type : DataType, type ≠ .double ∧ (u = .null ∨ u.type = type) ∧ (v = .null ∨ v.type = type)

/-- The first value comes before the second one, as `null` does before all others. -/
def Earlier (u v : Value) : Prop :=
  u = .null ∧ v ≠ .null ∨ u.compare? v = some .lt

theorem isComparable_of_type {v : Value} (there : v ≠ .null) (single : v.type ≠ .double) :
    v.isComparable = true := by
  cases v with
  | null => exact absurd rfl there
  | double => exact absurd rfl single
  | integer | text | date | time | timestamp => rfl

theorem lineUp_null_left {v : Value} (comparable : v.isComparable = true) :
    lineUp .null v = .lt := by
  cases v with
  | null => cases comparable
  | double d => cases d with
    | nan => cases comparable
    | number => rfl
  | integer | text | date | time | timestamp => rfl

theorem lineUp_null_right {v : Value} (comparable : v.isComparable = true) :
    lineUp v .null = .gt :=
  OrientedCmp.gt_iff_lt.mpr (lineUp_null_left comparable)

theorem eq_of_lineUp {u v : Value} (sameType : u.type = v.type) (single : u.type ≠ .double)
    (thereU : u ≠ .null) (thereV : v ≠ .null) (level : u.lineUp v = .eq) : u = v := by
  cases u with
  | null => exact absurd rfl thereU
  | double => exact absurd rfl single
  | integer i =>
    cases v with
    | integer j =>
      rw [lineUp_integer] at level
      exact congrArg integer (Int64.toInt_inj.mp (Int.compare_eq_eq.mp level))
    | _ => cases sameType
  | text s =>
    cases v with
    | null => exact absurd rfl thereV
    | text t =>
      rw [lineUp_text] at level
      exact congrArg text (LawfulEqCmp.eq_of_compare level)
    | _ => cases sameType
  | date d =>
    cases v with
    | date e =>
      rw [lineUp_date] at level
      exact congrArg date (LawfulEqCmp.eq_of_compare level)
    | _ => cases sameType
  | time t =>
    cases v with
    | time t' =>
      rw [lineUp_time] at level
      exact congrArg time (LawfulEqCmp.eq_of_compare level)
    | _ => cases sameType
  | timestamp t =>
    cases v with
    | timestamp t' =>
      rw [lineUp_timestamp] at level
      exact congrArg timestamp (LawfulEqCmp.eq_of_compare level)
    | _ => cases sameType

theorem Alike.symm {u v : Value} (alike : u.Alike v) : v.Alike u := by
  obtain ⟨type, single, kindU, kindV⟩ := alike
  exact ⟨type, single, kindV, kindU⟩

theorem Alike.isComparable {u v : Value} (alike : u.Alike v) (there : u ≠ .null) :
    u.isComparable = true := by
  obtain ⟨type, single, kind, -⟩ := alike
  exact isComparable_of_type there (kind.resolve_left there ▸ single)

theorem Alike.sameType {u v : Value} (alike : u.Alike v) (thereU : u ≠ .null) (thereV : v ≠ .null) :
    u.type = v.type ∧ u.type ≠ .double := by
  obtain ⟨type, single, kindU, kindV⟩ := alike
  rw [kindU.resolve_left thereU, kindV.resolve_left thereV]
  exact ⟨rfl, single⟩

theorem Alike.compareKeys_eq {u v : Value} (alike : u.Alike v) :
    ResultRow.compareKeys u v = u.lineUp v := by
  by_cases noU : u = .null
  · by_cases noV : v = .null
    · rw [noU, noV]
      rfl
    · rw [noU, lineUp_null_left (alike.symm.isComparable noV)]
      cases v <;> first | rfl | exact absurd rfl noV
  · by_cases noV : v = .null
    · rw [noV, lineUp_null_right (alike.isComparable noU)]
      cases u <;> first | rfl | exact absurd rfl noU
    · have compared := compare?_eq_lineUp (alike.isComparable noU) (alike.symm.isComparable noV)
        (alike.sameType noU noV).1
      have keys : ResultRow.compareKeys u v = (u.compare? v).getD .eq := by
        cases u <;> cases v <;> first | rfl | exact absurd rfl noU | exact absurd rfl noV
      rw [keys, compared]
      rfl

theorem Alike.earlier_of_lt {u v : Value} (alike : u.Alike v) (before : u.lineUp v = .lt) :
    u.Earlier v := by
  by_cases noU : u = .null
  · refine .inl ⟨noU, ?_⟩
    rintro rfl
    rw [noU] at before
    cases before
  · by_cases noV : v = .null
    · rw [noV, lineUp_null_right (alike.isComparable noU)] at before
      cases before
    · right
      rw [compare?_eq_lineUp (alike.isComparable noU) (alike.symm.isComparable noV)
        (alike.sameType noU noV).1, before]

theorem Alike.eq_of_level {u v : Value} (alike : u.Alike v) (level : u.lineUp v = .eq) : u = v := by
  by_cases noU : u = .null
  · by_cases noV : v = .null
    · exact noU.trans noV.symm
    · rw [noU, lineUp_null_left (alike.symm.isComparable noV)] at level
      cases level
  · by_cases noV : v = .null
    · rw [noV, lineUp_null_right (alike.isComparable noU)] at level
      cases level
    · obtain ⟨sameType, single⟩ := alike.sameType noU noV
      exact eq_of_lineUp sameType single noU noV level

end Value

/-- The rows of keys are in the order of the items: of the first keys that differ, the one that comes first
in the direction of its item is in the first row. -/
inductive Precedes : List OrderItem → List Value → List Value → Prop
  | ascending {e items u v us vs} : u.Earlier v →
      Precedes (⟨e, .ascending⟩ :: items) (u :: us) (v :: vs)
  | descending {e items u v us vs} : v.Earlier u →
      Precedes (⟨e, .descending⟩ :: items) (u :: us) (v :: vs)
  | tie {item items u us vs} : Precedes items us vs → Precedes (item :: items) (u :: us) (u :: vs)

namespace ResultRow

def directed : SortOrder → Value → Value → Ordering
  | .ascending => Value.lineUp
  | .descending => fun u v => v.lineUp u

instance (order : SortOrder) : TransCmp (directed order) :=
  match order with
  | .ascending => inferInstanceAs (TransCmp Value.lineUp)
  | .descending => inferInstanceAs (TransCmp fun u v => Value.lineUp v u)

def line : List OrderItem → List Value → List Value → Ordering
  | [] => fun _ _ => .eq
  | item :: items =>
    compareLex (fun us vs => directed item.order (us.headD .null) (vs.headD .null))
      fun us vs => line items us.tail vs.tail

instance (items : List OrderItem) : TransCmp (line items) := by
  induction items with
  | nil =>
    exact { eq_swap := rfl, isLE_trans := fun _ _ => rfl }
  | cons item items ih =>
    have first := transCmp_on (directed item.order) (List.headD · .null)
    have rest := transCmp_on (line items) List.tail
    exact inferInstanceAs (TransCmp (compareLex _ _))

theorem compare_eq_line {items : List OrderItem} {us vs : List Value}
    (alike : List.Forall₂ Value.Alike us vs) (full : us.length = items.length) :
    compare items us vs = line items us vs := by
  induction items generalizing us vs with
  | nil => cases us <;> rfl
  | cons item items ih =>
    cases alike with
    | nil => cases full
    | cons first rest =>
      rw [compare, line, ih rest (Nat.succ.inj full), first.compareKeys_eq]
      have swapped : ∀ u v : Value, (u.lineUp v).swap = v.lineUp u :=
        fun u v => OrientedCmp.eq_swap.symm
      obtain ⟨e, order⟩ := item
      cases order with
      | ascending => rfl
      | descending =>
        simp only [swapped]
        rfl

/-- Of rows whose keys are alike, one that is not after another one in the line has the same keys or
precedes it. -/
theorem precedes_of_line {items : List OrderItem} {us vs : List Value}
    (alike : List.Forall₂ Value.Alike us vs) (full : us.length = items.length)
    (notAfter : line items us vs ≠ .gt) : us = vs ∨ Precedes items us vs := by
  induction items generalizing us vs with
  | nil =>
    obtain rfl := List.length_eq_zero_iff.mp full
    cases alike
    exact .inl rfl
  | cons item items ih =>
    cases alike with
    | nil => cases full
    | @cons u v us vs first rest =>
      obtain ⟨e, order⟩ := item
      have step : line (⟨e, order⟩ :: items) (u :: us) (v :: vs) =
          (directed order u v).then (line items us vs) := rfl
      rw [step] at notAfter
      cases decided : directed order u v with
      | lt =>
        right
        cases order with
        | ascending => exact .ascending (first.earlier_of_lt decided)
        | descending => exact .descending (first.symm.earlier_of_lt decided)
      | eq =>
        have same : u = v := by
          cases order with
          | ascending => exact first.eq_of_level decided
          | descending => exact (first.symm.eq_of_level decided).symm
        rw [decided] at notAfter
        rcases ih rest (Nat.succ.inj full) notAfter with tails | tails
        · exact .inl (by rw [same, tails])
        · exact .inr (same ▸ .tie tails)
      | gt =>
        rw [decided] at notAfter
        exact absurd rfl notAfter

/-- The keys of each item are of one type or `null`, and they are not doubles. -/
def Uniform (items : List OrderItem) (rows : List ResultRow) : Prop :=
  ∀ i < items.length, ∃ type : DataType, type ≠ .double ∧
    ∀ row ∈ rows, ∀ key, row.sortKeys[i]? = some key → key = .null ∨ key.type = type

section

variable {items : List OrderItem} {rows : List ResultRow}
  (full : ∀ row ∈ rows, row.sortKeys.length = items.length) (uniform : Uniform items rows)

include full uniform

theorem alike_of_uniform {a b : ResultRow} (memA : a ∈ rows) (memB : b ∈ rows) :
    List.Forall₂ Value.Alike a.sortKeys b.sortKeys := by
  refine List.forall₂_iff_get.mpr ⟨(full a memA).trans (full b memB).symm, fun i hA hB => ?_⟩
  obtain ⟨type, single, kind⟩ := uniform i (full a memA ▸ hA)
  exact ⟨type, single, kind a memA _ (List.getElem?_eq_getElem hA),
    kind b memB _ (List.getElem?_eq_getElem hB)⟩

theorem mergeSort_eq_line :
    (rows.mergeSort fun a b => compare items a.sortKeys b.sortKeys ≠ .gt) =
      rows.mergeSort fun a b => line items a.sortKeys b.sortKeys ≠ .gt := by
  have same (a : ResultRow) (memA : a ∈ rows) (b : ResultRow) (memB : b ∈ rows) :
      decide (compare items a.sortKeys b.sortKeys ≠ .gt) =
        decide (line items a.sortKeys b.sortKeys ≠ .gt) := by
    rw [compare_eq_line (alike_of_uniform full uniform memA memB) (full a memA)]
  have sorted := List.map_mergeSort (f := id)
    (s := fun a b : ResultRow => decide (line items a.sortKeys b.sortKeys ≠ .gt)) same
  rwa [List.map_id, List.map_id] at sorted

theorem pairwise_precedes :
    (rows.mergeSort fun a b => compare items a.sortKeys b.sortKeys ≠ .gt).Pairwise
      fun a b => a.sortKeys = b.sortKeys ∨ Precedes items a.sortKeys b.sortKeys := by
  rw [mergeSort_eq_line full uniform]
  have sorted := List.pairwise_mergeSort (notAfter_trans (line items) sortKeys)
    (notAfter_total (line items) sortKeys) rows
  refine sorted.imp_of_mem fun {a b} memA memB notAfter => ?_
  have memA : a ∈ rows := List.mem_mergeSort.mp memA
  have memB : b ∈ rows := List.mem_mergeSort.mp memB
  exact precedes_of_line (alike_of_uniform full uniform memA memB) (full a memA)
    (of_decide_eq_true notAfter)

theorem filter_mergeSort_eq (keys : List Value) :
    (rows.mergeSort fun a b => compare items a.sortKeys b.sortKeys ≠ .gt).filter
      (fun row => row.sortKeys = keys) = rows.filter fun row => row.sortKeys = keys := by
  rw [mergeSort_eq_line full uniform]
  exact filter_mergeSort (line items) sortKeys rows keys

end

end ResultRow

end PlainTables
