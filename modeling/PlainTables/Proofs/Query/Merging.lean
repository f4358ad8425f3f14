import PlainTables.Evaluation.Condition
import PlainTables.Proofs.Query.Grouping
import PlainTables.Proofs.Value.Order

/-!
# Merged rows

DISTINCT and GROUP BY merge rows that have the same values. Among values read from texts, of one type in each
column, these are the rows whose values are equal in the sense of a condition, with one exception: the two
zeros are equal, and they are not merged.
-/

namespace PlainTables

open Std

namespace Value

def isZero : Value → Bool
  | double (.number _ 0 _) => true
  | _ => false

theorem signedRank_eq_iff {a b : Bool} {x y : Nat} :
    Double.signedRank a x = Double.signedRank b y ↔ a = b ∧ x = y ∨ x = 0 ∧ y = 0 := by
  cases a <;> cases b <;> simp [Double.signedRank] <;> omega

theorem compare?_double_eq_iff {d e : Double} (hd : d ≠ .nan) (he : e ≠ .nan) :
    d.compare? e = some .eq ↔ d = e ∨ (double d).isZero = true ∧ (double e).isZero = true := by
  have zero_iff (a : Bool) (x : Nat) (hx : x ≤ infinityRank) :
      (double (.number a x hx)).isZero = true ↔ x = 0 := by
    cases x <;> simp [isZero]
  cases d with
  | nan => exact absurd rfl hd
  | number a x hx =>
    cases e with
    | nan => exact absurd rfl he
    | number b y hy =>
      rw [zero_iff, zero_iff, Double.number.injEq, ← signedRank_eq_iff]
      exact (Option.some_inj).trans Int.compare_eq_eq

/-- Two values of one type are equal if they are the same value or both are zeros. -/
theorem compare?_eq_iff {u v : Value} (hu : u.isComparable = true) (hv : v.isComparable = true)
    (sameType : u.type = v.type) :
    u.compare? v = some .eq ↔ u = v ∨ u.isZero = true ∧ v.isZero = true := by
  have noZero {α : Type} {cmp : α → α → Ordering} [ReflCmp cmp] [LawfulEqCmp cmp] (f : α → Value)
      (injective : ∀ a b, f a = f b → a = b) (number : ∀ a, (f a).isZero = false) (a b : α) :
      some (cmp a b) = some .eq ↔ f a = f b ∨ (f a).isZero = true ∧ (f b).isZero = true := by
    rw [number, Option.some_inj, LawfulEqCmp.compare_eq_iff_eq]
    simp only [Bool.false_eq_true, false_and, or_false]
    exact ⟨congrArg f, injective a b⟩
  cases u with
  | null => cases hu
  | integer i =>
    cases v with
    | integer j =>
      have same : some (compare i.toInt j.toInt) = some .eq ↔ i.toInt = j.toInt :=
        Option.some_inj.trans Int.compare_eq_eq
      apply same.trans
      simp only [isZero, Bool.false_eq_true, false_and, or_false, integer.injEq, Int64.toInt_inj]
    | _ => cases sameType
  | double x =>
    cases v with
    | double y =>
      have defined {z : Double} (comparable : (double z).isComparable = true) : z ≠ .nan := by
        rintro rfl
        cases comparable
      rw [double.injEq]
      exact compare?_double_eq_iff (defined hu) (defined hv)
    | _ => cases sameType
  | text s =>
    cases v with
    | null => cases hv
    | text t => exact noZero text (fun _ _ => text.inj) (fun _ => rfl) s t
    | _ => cases sameType
  | date d =>
    cases v with
    | date e => exact noZero date (fun _ _ => date.inj) (fun _ => rfl) d e
    | _ => cases sameType
  | time t =>
    cases v with
    | time t' => exact noZero time (fun _ _ => time.inj) (fun _ => rfl) t t'
    | _ => cases sameType
  | timestamp t =>
    cases v with
    | timestamp t' => exact noZero timestamp (fun _ _ => timestamp.inj) (fun _ => rfl) t t'
    | _ => cases sameType

/-- A value that is there and comes from a text, by any formats and of a type that was declared or found. -/
def IsRead (v : Value) : Prop :=
  v ≠ null ∧ ∃ (c : Formats) (raw : String) (type : DataType), c.coerce raw type = .ok v

theorem IsRead.isComparable {v : Value} (read : v.IsRead) : v.isComparable = true := by
  obtain ⟨there, c, raw, type, coerces⟩ := read
  exact Formats.isComparable_of_coerce there coerces

theorem compare_eq_iff {u v : Value} (readU : u.IsRead) (readV : v.IsRead)
    (sameType : u.type = v.type) :
    Comparison.eq.compare (some u) (some v) = true ↔ u = v ∨ u.isZero = true ∧ v.isZero = true := by
  have equal : Comparison.eq.compare (some u) (some v) = true ↔ u.compare? v = some .eq := by
    rw [Comparison.compare]
    rcases u.compare? v with _ | order
    · simp
    · cases order <;> simp [Comparison.holds]
  rw [equal]
  exact compare?_eq_iff readU.isComparable readV.isComparable sameType

/-- Two rows have equal values in each place, as a condition compares them. -/
def areEqual : List Value → List Value → Bool
  | [], [] => true
  | u :: us, v :: vs => Comparison.eq.compare (some u) (some v) && areEqual us vs
  | _, _ => false

/-- The values of the rows come from texts. Those in one place are of one type, and no two of them are
zeros of different signs. -/
structure FromColumns (rows : List (List Value)) : Prop where
  read : ∀ row ∈ rows, ∀ v ∈ row, v.IsRead
  types : ∀ row ∈ rows, ∀ row' ∈ rows, row.map type = row'.map type
  zeros : ∀ row ∈ rows, ∀ row' ∈ rows,
    List.Forall₂ (fun u v => u.isZero = true → v.isZero = true → u = v) row row'

theorem FromColumns.areEqual_eq {rows : List (List Value)} (columns : FromColumns rows)
    {row row' : List Value} (mem : row ∈ rows) (mem' : row' ∈ rows) :
    areEqual row row' = (row == row') := by
  have readRow := columns.read row mem
  have readRow' := columns.read row' mem'
  have sameTypes := columns.types row mem row' mem'
  have zeros := columns.zeros row mem row' mem'
  clear mem mem'
  induction zeros with
  | nil => rfl
  | @cons u v us vs oneZero _ ih =>
    obtain ⟨readU, readUs⟩ := List.forall_mem_cons.mp readRow
    obtain ⟨readV, readVs⟩ := List.forall_mem_cons.mp readRow'
    obtain ⟨sameType, sameTypes⟩ := List.cons.inj sameTypes
    have first : Comparison.eq.compare (some u) (some v) = (u == v) := by
      rw [Bool.eq_iff_iff, compare_eq_iff readU readV sameType, beq_iff_eq]
      constructor
      · rintro (same | ⟨zeroU, zeroV⟩)
        · exact same
        · exact oneZero zeroU zeroV
      · exact .inl
    rw [areEqual, first, ih readUs readVs sameTypes]
    rfl

end Value

/-- Relations that are the same among the items of a list leave the same items of it. -/
theorem eraseDupsBy_congr {α : Type} {r r' : α → α → Bool} {items : List α}
    (same : ∀ a ∈ items, ∀ b ∈ items, r a b = r' a b) :
    items.eraseDupsBy r = items.eraseDupsBy r' := by
  induction length : items.length using Nat.strongRecOn generalizing items with
  | _ n ih =>
    cases items with
    | nil => rfl
    | cons a items =>
      have others : items.filter (fun b => decide (r b a = false)) =
          items.filter fun b => decide (r' b a = false) := by
        apply List.filter_congr
        intro b mem
        rw [same b (List.mem_cons_of_mem a mem) a List.mem_cons_self]
      have shorter := List.length_filter_le (fun b => decide (r' b a = false)) items
      rw [List.length_cons] at length
      rw [List.eraseDupsBy_cons, List.eraseDupsBy_cons, others]
      refine congrArg (a :: ·) (ih _ (by omega) ?_ rfl)
      intro b memB c memC
      exact same b (List.mem_cons_of_mem a (List.mem_filter.mp memB).1) c
        (List.mem_cons_of_mem a (List.mem_filter.mp memC).1)

open Value

theorem Value.FromColumns.eraseDups_eq {rows : List (List Value)} (columns : FromColumns rows) :
    rows.eraseDups = rows.eraseDupsBy areEqual :=
  eraseDupsBy_congr fun _ mem _ mem' => (columns.areEqual_eq mem mem').symm

theorem ResultRow.distinct_eq {rows : List ResultRow}
    (columns : FromColumns (rows.map ResultRow.values)) :
    (distinct [] rows).map ResultRow.values =
      (rows.map ResultRow.values).eraseDupsBy areEqual := by
  rw [← columns.eraseDups_eq, Plan.values_distinct]
  have all (row : List Value) : (!([] : List (List Value)).contains row) = true := rfl
  simp only [Plan.unseen, all, List.filter_true]

theorem Plan.groups_of_columns {p : Plan} {rows : List Row} {key : Row → List Value}
    (byKeys : p.statement.groupBy ≠ []) (keys : ∀ row ∈ rows, p.groupKey row = .ok (key row))
    (columns : FromColumns (rows.map key)) :
    p.groups (rows.map fun row => (key row, row)) =
      ((rows.map key).eraseDupsBy areEqual).map fun k =>
        ⟨k, rows.filter fun row => areEqual (key row) k⟩ := by
  rw [groups_eq keys, if_neg byKeys, ← columns.eraseDups_eq]
  apply List.map_congr_left
  intro k found
  have own : k ∈ rows.map key := List.mem_eraseDups.mp found
  refine congrArg (Group.mk k) (List.filter_congr fun row mem => ?_)
  exact (columns.areEqual_eq (List.mem_map_of_mem mem) own).symm

namespace Statement

variable {σ : Type} [RecordSource σ]

/-- A statement with DISTINCT gives the first ones of the equal rows, streamed or as a whole. -/
theorem delivers_distinct {s : Statement} {source : σ} {options : QueryOptions} {p : Plan}
    {rows : List Row} {projected : List (List Value)}
    (valid : Plan.make s (RecordSource.columns source) options = .ok p)
    (distinct : s.distinct = true) (ungrouped : s.isGrouped = false) (unordered : s.orderBy = [])
    (gives : Scan.Gives p ⟨source, none⟩ rows none) (projects : rows.mapM p.project = .ok projected)
    (columns : FromColumns projected) :
    ∃ cursor, s.run source options = .ok cursor ∧
      cursor.Delivers (Plan.window p.offset p.limit (projected.eraseDupsBy areEqual)) none := by
  obtain rfl := statement_of_make valid
  rw [← columns.eraseDups_eq]
  cases mode : options.scrollable with
  | true =>
    have same : { options with scrollable := true } = options := by rw [← mode]
    obtain ⟨after, runs⟩ := run_whole valid ungrouped unordered gives
    rw [projects, same] at runs
    refine ⟨_, runs, ?_⟩
    have kept : p.kept projected = Plan.window p.offset p.limit projected.eraseDups := by
      rw [Plan.kept, if_pos distinct]
    rw [← kept]
    exact Cursor.delivers_buffered rfl rfl (Nat.zero_le _)
  | false =>
    have streamable : p.isStreamable = true := by simp [Plan.isStreamable, ungrouped, unordered]
    have same : { options with scrollable := false } = options := by rw [← mode]
    have runs := run_streamed valid streamable
    rw [same] at runs
    refine ⟨_, runs, ?_⟩
    have produced := Plan.produced_of_projects (p := p.scrolled false)
      (if p.statement.distinct then some [] else none) p.offset p.limit projects
    have erased : (if p.statement.distinct then projected.eraseDups else projected) =
        projected.eraseDups := if_pos distinct
    rw [Plan.unseen_of_distinct, erased] at produced
    exact Cursor.delivers_produced rfl rfl rfl (Plan.gives_scrolled gives) produced

/-- A statement with GROUP BY computes its result from one group for all rows whose keys are equal. -/
theorem delivers_groups {s : Statement} {source : σ} {options : QueryOptions} {p : Plan}
    {rows : List Row} {key : Row → List Value} {found : List (Option ResultRow)}
    (valid : Plan.make s (RecordSource.columns source) options = .ok p) (byKeys : s.groupBy ≠ [])
    (gives : Scan.Gives p ⟨source, none⟩ rows none)
    (keys : ∀ row ∈ rows, p.groupKey row = .ok (key row)) (columns : FromColumns (rows.map key))
    (each : ((rows.map key).eraseDupsBy areEqual).mapM (fun k =>
      p.groupRow ⟨k, rows.filter fun row => areEqual (key row) k⟩) = .ok found) :
    ∃ cursor, s.run source options = .ok cursor ∧
      cursor.Delivers (p.arrange (found.filterMap id)) none := by
  obtain rfl := statement_of_make valid
  have grouped : p.statement.isGrouped = true := by simp [isGrouped, byKeys]
  have whole : (p.isStreamable && !options.scrollable) = false := by simp [Plan.isStreamable, grouped]
  have keyed : rows.mapM p.keyed = .ok (rows.map fun row => (key row, row)) := by
    refine mapM_eq_ok_iff.mpr (List.forall₂_map_right_iff.mpr (List.forall₂_same.mpr fun row mem => ?_))
    rw [Plan.keyed, keys row mem]
    rfl
  have groups : p.groupRows (rows.map fun row => (key row, row)) = .ok (found.filterMap id) := by
    rw [Plan.groupRows, Plan.groups_of_columns byKeys keys columns, List.mapM_map]
    exact congrArg (Except.map (List.filterMap id)) each
  have computed : p.computed rows none = .ok (found.filterMap id) := by
    rw [Plan.computed, if_pos grouped, keyed]
    exact groups
  obtain ⟨after, runs⟩ := run_of_computed valid whole gives
  rw [computed] at runs
  exact ⟨_, runs, Cursor.delivers_buffered rfl rfl (Nat.zero_le _)⟩

/-- Two values of one type that come from texts are equal if they are the same or both are zeros. Rows of such
values, without zeros of different signs in one column, are equal if they are the same; then DISTINCT gives
each row that is not equal to an earlier one, and GROUP BY has one group for the rows of equal keys, from which
HAVING, the select list and ORDER BY are computed. -/
theorem merges_equal_rows :
    (∀ u v : Value, u.IsRead → v.IsRead → u.type = v.type →
      (u.compare? v = some .eq ↔ u = v ∨ u.isZero = true ∧ v.isZero = true)) ∧
    (∀ rows, FromColumns rows → ∀ row ∈ rows, ∀ row' ∈ rows,
      (areEqual row row' = true ↔ row = row')) ∧
    (∀ (s : Statement) (source : σ) (options : QueryOptions) (p : Plan) (rows : List Row)
      (projected : List (List Value)),
      Plan.make s (RecordSource.columns source) options = .ok p → s.distinct = true →
      s.isGrouped = false → s.orderBy = [] → Scan.Gives p ⟨source, none⟩ rows none →
      rows.mapM p.project = .ok projected → FromColumns projected →
      ∃ cursor, s.run source options = .ok cursor ∧
        cursor.Delivers (Plan.window p.offset p.limit (projected.eraseDupsBy areEqual)) none) ∧
    (∀ rows : List ResultRow, FromColumns (rows.map ResultRow.values) →
      (ResultRow.distinct [] rows).map ResultRow.values =
        (rows.map ResultRow.values).eraseDupsBy areEqual) ∧
    (∀ (s : Statement) (source : σ) (options : QueryOptions) (p : Plan) (rows : List Row)
      (key : Row → List Value) (found : List (Option ResultRow)),
      Plan.make s (RecordSource.columns source) options = .ok p → s.groupBy ≠ [] →
      Scan.Gives p ⟨source, none⟩ rows none → (∀ row ∈ rows, p.groupKey row = .ok (key row)) →
      FromColumns (rows.map key) →
      ((rows.map key).eraseDupsBy areEqual).mapM (fun k =>
        p.groupRow ⟨k, rows.filter fun row => areEqual (key row) k⟩) = .ok found →
      ∃ cursor, s.run source options = .ok cursor ∧
        cursor.Delivers (p.arrange (found.filterMap id)) none) := by
  refine ⟨?_, ?_, ?_, ?_, ?_⟩
  · intro u v readU readV sameType
    exact compare?_eq_iff readU.isComparable readV.isComparable sameType
  · intro rows columns row mem row' mem'
    rw [columns.areEqual_eq mem mem', beq_iff_eq]
  · intro s source options p rows projected valid distinct ungrouped unordered gives projects columns
    exact delivers_distinct valid distinct ungrouped unordered gives projects columns
  · intro rows columns
    exact ResultRow.distinct_eq columns
  · intro s source options p rows key found valid byKeys gives keys columns each
    exact delivers_groups valid byKeys gives keys columns each

/-- Cities with years, of which one is repeated, and the two zeros. -/
theorem merges_equal_rows_of_cities :
    let oslo := [Value.text "Oslo", .integer 7]
    let bergen := [Value.text "Bergen", .integer 7]
    let up := Value.double (.number false 0 (Nat.zero_le _))
    let down := Value.double (.number true 0 (Nat.zero_le _))
    FromColumns [oslo, bergen, oslo] ∧
    (up.IsRead ∧ down.IsRead ∧ up.compare? down = some .eq) ∧
    areEqual oslo bergen = false ∧
    (∃ cursor, run { distinct := true, columns := [⟨.wildcard, none⟩] }
        (⟨["city", "year"], [["Oslo", "7"], ["Bergen", "7"], ["Oslo", "7"]], []⟩ : MemoryTable) {} =
          .ok cursor ∧ cursor.Delivers [oslo, bergen] none) ∧
    (ResultRow.distinct [] [⟨oslo, [.null]⟩, ⟨bergen, []⟩, ⟨oslo, []⟩]).map ResultRow.values =
      [oslo, bergen] ∧
    ∃ cursor, run { columns := [⟨.column none "city", none⟩, ⟨.countRows, none⟩]
                    groupBy := [.column none "city", .column none "year"] }
        (⟨["city", "year"], [["Oslo", "7"], ["Bergen", "7"], ["Oslo", "7"]], []⟩ : MemoryTable) {} =
          .ok cursor ∧
      cursor.Delivers [[.text "Oslo", .integer 2], [.text "Bergen", .integer 1]] none := by
  intro oslo bergen up down
  have columns : FromColumns [oslo, bergen, oslo] := by
    have city (s : String) : (Value.text s).IsRead := ⟨by simp, {}, s, .string, rfl⟩
    have year : (Value.integer 7).IsRead := ⟨by simp, {}, "7", .integer, rfl⟩
    refine ⟨?_, ?_, ?_⟩
    · simp [oslo, bergen, city, year]
    · simp [oslo, bergen, type]
    · simp [oslo, bergen, isZero]
  have readUp : up.IsRead := ⟨by simp [up], {}, "0.0", .double, by decide +kernel⟩
  have readDown : down.IsRead := ⟨by simp [down], {}, "-0.0", .double, by decide +kernel⟩
  let table : MemoryTable := ⟨["city", "year"], [["Oslo", "7"], ["Bergen", "7"], ["Oslo", "7"]], []⟩
  let rowOf (values : List Value) : Row := ⟨⟨["city", "year"]⟩, values⟩
  obtain ⟨equal, same, distinct, kept, groups⟩ := merges_equal_rows (σ := MemoryTable)
  have zeros : up.isZero = true ∧ down.isZero = true := ⟨by decide, by decide⟩
  have equalZeros := (equal up down readUp readDown rfl).mpr (.inr zeros)
  refine ⟨columns, ⟨readUp, readDown, equalZeros⟩, ?_, ?_, ?_, ?_⟩
  · rw [← Bool.not_eq_true, same _ columns oslo (by simp) bergen (by simp)]
    decide
  · let p : Plan := ⟨{ distinct := true, columns := [⟨.wildcard, none⟩] }, ⟨["city", "year"]⟩, {}⟩
    have gives : Scan.Gives p ⟨table, none⟩ [rowOf oslo, rowOf bergen, rowOf oslo] none := by
      refine .kept rfl ?_ rfl (.kept rfl ?_ rfl (.kept rfl ?_ rfl (.ended rfl))) <;> decide +kernel
    exact distinct _ table {} p _ _ rfl rfl rfl rfl gives rfl columns
  · exact kept [⟨oslo, [.null]⟩, ⟨bergen, []⟩, ⟨oslo, []⟩] columns
  · let s : Statement :=
      { columns := [⟨.column none "city", none⟩, ⟨.countRows, none⟩]
        groupBy := [.column none "city", .column none "year"] }
    let p : Plan := ⟨s, ⟨["city", "year"]⟩, {}⟩
    have gives : Scan.Gives p ⟨table, none⟩ [rowOf oslo, rowOf bergen, rowOf oslo] none := by
      refine .kept rfl ?_ rfl (.kept rfl ?_ rfl (.kept rfl ?_ rfl (.ended rfl))) <;> decide +kernel
    have keys : ∀ row ∈ [rowOf oslo, rowOf bergen, rowOf oslo], p.groupKey row = .ok row.values := by
      decide +kernel
    have each : (([rowOf oslo, rowOf bergen, rowOf oslo].map Row.values).eraseDupsBy areEqual).mapM
        (fun k => p.groupRow ⟨k, [rowOf oslo, rowOf bergen, rowOf oslo].filter fun row =>
          areEqual row.values k⟩) =
        .ok [some ⟨[.text "Oslo", .integer 2], []⟩, some ⟨[.text "Bergen", .integer 1], []⟩] := by
      decide +kernel
    exact groups s table {} p _ Row.values _ rfl (by simp [s]) gives keys columns each

/-- Two zeros that are read from texts are equal, but both are given by DISTINCT, and each has a group. -/
theorem zeros_not_merged :
    let up := Value.double (.number false 0 (Nat.zero_le _))
    let down := Value.double (.number true 0 (Nat.zero_le _))
    let table : MemoryTable := ⟨["x"], [["0.0"], ["-0.0"]], []⟩
    let x := Expression.column none "x"
    (Formats.coerce {} "0.0" .double = .ok up ∧ Formats.coerce {} "-0.0" .double = .ok down ∧
      up.compare? down = some .eq ∧ up ≠ down) ∧
    (run { distinct := true, columns := [⟨x, none⟩] } table {}).toOption.map (·.fetch.1) =
      some ([[up], [down]], none) ∧
    (run { columns := [⟨x, none⟩, ⟨.countRows, some "n"⟩], groupBy := [x] } table {}).toOption.map
        (·.fetch.1) = some ([[up, .integer 1], [down, .integer 1]], none) ∧
    (run { columns := [⟨.countRows, some "n"⟩],
           filter := some (.compare .eq x (.literal (.integer 0))) } table {}).toOption.map (·.fetch.1) =
      some ([[.integer 2]], none) := by
  intro up down table x
  refine ⟨⟨?_, ?_, ?_, ?_⟩, ?_, ?_, ?_⟩ <;> decide +kernel

end Statement

end PlainTables
