import Mathlib.Algebra.GroupWithZero.Nat
import Mathlib.Algebra.Order.BigOperators.Group.List
import Mathlib.Algebra.Order.Group.Nat
import Mathlib.Data.List.Induction
import Mathlib.Data.List.Nodup
import PlainTables.Proofs.Query.Streaming

/-!
# Groups

GROUP BY partitions the rows that pass WHERE: there is a group for each key that occurs, in the order in
which the keys first appear, and every row is in the group of its key. A result has one row for each
group, computed over the rows of the group and over no others.
-/

namespace PlainTables

section

variable {α κ : Type} [BEq κ] [LawfulBEq κ]

theorem nodup_eraseDups (keys : List κ) : keys.eraseDups.Nodup := by
  induction length : keys.length using Nat.strongRecOn generalizing keys with
  | _ n ih =>
    cases keys with
    | nil => exact List.nodup_nil
    | cons key keys =>
      rw [List.eraseDups_cons, List.nodup_cons, List.mem_eraseDups]
      have shorter := List.length_filter_le (fun other => !other == key) keys
      rw [List.length_cons] at length
      exact ⟨by simp, ih _ (by omega) _ rfl⟩

theorem perm_flatMap_filter (key : α → κ) (items : List α) :
    ((items.map key).eraseDups.flatMap fun k => items.filter fun b => key b == k).Perm items := by
  induction length : items.length using Nat.strongRecOn generalizing items with
  | _ n ih =>
    cases items with
    | nil => exact .nil
    | cons a items =>
      -- The items of the first key and all others are taken apart. No other key has items among the
      -- former, so the induction goes on with the latter.
      let others := items.filter fun b => !key b == key a
      have shorter : others.length ≤ items.length := List.length_filter_le _ items
      have keys : (items.map key).filter (fun k => !k == key a) = others.map key := List.filter_map
      have apart (k : κ) (mem : k ∈ (others.map key).eraseDups) :
          (a :: items).filter (fun b => key b == k) = others.filter fun b => key b == k := by
        obtain ⟨b, other, rfl⟩ := List.mem_map.mp (List.mem_eraseDups.mp mem)
        have ne : (key b == key a) = false := by simpa using (List.mem_filter.mp other).2
        rw [List.filter_cons_of_neg (by simpa using Ne.symm (ne_of_beq_false ne)),
          List.filter_filter]
        refine List.filter_congr fun c _ => ?_
        by_cases same : key c = key b
        · simp [same, ne]
        · simp [same]
      rw [List.map_cons, List.eraseDups_cons, keys, List.flatMap_cons, List.flatMap_congr apart,
        List.filter_cons_of_pos (by simp), List.cons_append]
      rw [List.length_cons] at length
      have rest := ih _ (by omega) others rfl
      exact .cons a ((rest.append_left _).trans (List.filter_append_perm _ items))

end

namespace Group

theorem insert_map (key : List Value) (row : Row) (rowsOf : List Value → List Row)
    {keys : List (List Value)} (distinct : keys.Nodup) :
    insert key row (keys.map fun k => ⟨k, rowsOf k⟩) =
      if key ∈ keys then keys.map fun k => ⟨k, if k = key then rowsOf k ++ [row] else rowsOf k⟩
      else keys.map (fun k => ⟨k, rowsOf k⟩) ++ [⟨key, [row]⟩] := by
  induction keys with
  | nil => rfl
  | cons k keys ih =>
    obtain ⟨new, distinct⟩ := List.nodup_cons.mp distinct
    rw [List.map_cons, insert]
    by_cases same : k = key
    · -- The key does not come again, so that the other groups stay as they are.
      subst same
      have others (other : List Value) (mem : other ∈ keys) :
          (⟨other, if other = k then rowsOf other ++ [row] else rowsOf other⟩ : Group) =
            ⟨other, rowsOf other⟩ := by
        rw [if_neg (ne_of_mem_of_not_mem mem new)]
      rw [if_pos rfl, if_pos List.mem_cons_self, List.map_cons, if_pos rfl,
        List.map_congr_left others]
    · rw [if_neg same, ih distinct]
      by_cases known : key ∈ keys
      · rw [if_pos known, if_pos (List.mem_cons_of_mem _ known), List.map_cons, if_neg same]
      · have unknown : key ∉ k :: keys := by simp [known, Ne.symm same]
        rw [if_neg known, if_neg unknown]
        rfl

theorem filter_concat (key : Row → List Value) (rows : List Row) (row : Row) (k : List Value) :
    ((rows ++ [row]).filter fun r => key r == k) =
      if k = key row then (rows.filter fun r => key r == k) ++ [row]
      else rows.filter fun r => key r == k := by
  rw [List.filter_append]
  split
  · rename_i same
    rw [List.filter_cons_of_pos (by simp [same]), List.filter_nil]
  · rename_i other
    rw [List.filter_cons_of_neg (by simpa using Ne.symm other), List.filter_nil, List.append_nil]

/-- There is one group for each key, in the order in which the keys first appear, with all the rows of
that key in their order. -/
theorem ofRows_eq (key : Row → List Value) (rows : List Row) :
    ofRows (rows.map fun row => (key row, row)) =
      (rows.map key).eraseDups.map fun k => ⟨k, rows.filter fun row => key row == k⟩ := by
  -- The groups of a row more are those of the rows before it, with this row put in its place.
  induction rows using List.reverseRecOn with
  | nil => rfl
  | append_singleton rows row ih =>
    have step : ofRows ((rows ++ [row]).map fun row => (key row, row)) =
        insert (key row) row (ofRows (rows.map fun row => (key row, row))) := by
      simp only [ofRows, List.map_append, List.foldl_append]
      rfl
    rw [step, ih, insert_map _ _ _ (nodup_eraseDups _), List.map_append, List.eraseDups_append,
      List.map_append]
    simp only [filter_concat, List.mem_eraseDups]
    by_cases known : key row ∈ rows.map key
    · have noNew : ([row].map key).removeAll (rows.map key) = [] := by
        simpa [List.removeAll] using known
      rw [if_pos known, noNew, List.eraseDups_nil, List.map_nil, List.append_nil]
    · have oneNew : ([row].map key).removeAll (rows.map key) = [key row] := by
        simpa [List.removeAll] using known
      have noRows : (rows.filter fun r => key r == key row) = [] := by
        refine List.filter_eq_nil_iff.mpr fun r mem same => known ?_
        exact List.mem_map.mpr ⟨r, mem, eq_of_beq same⟩
      have others (k : List Value) (mem : k ∈ (rows.map key).eraseDups) : k ≠ key row :=
        ne_of_mem_of_not_mem (List.mem_eraseDups.mp mem) known
      rw [if_neg known, oneNew, List.eraseDups_cons, List.filter_nil, List.eraseDups_nil,
        List.map_singleton, if_pos rfl, noRows, List.nil_append]
      refine congrArg (· ++ _) (List.map_congr_left fun k mem => ?_)
      rw [if_neg (others k mem)]

end Group

namespace Plan

variable {p : Plan}

def rowsOfKey (p : Plan) (rows : List Row) (key : List Value) : List Row :=
  rows.filter fun row => (p.groupKey row).toOption = some key

def groupValues (p : Plan) (rows : List Row) : Except QueryError (List Value) :=
  p.columns.mapM fun c => c.expression.evaluate (.ofGroup p.columns [] rows)

theorem rowsOfKey_eq {rows : List Row} {key : Row → List Value}
    (keys : ∀ row ∈ rows, p.groupKey row = .ok (key row)) (k : List Value) :
    p.rowsOfKey rows k = rows.filter fun row => key row == k := by
  refine List.filter_congr fun row mem => ?_
  rw [keys row mem]
  simp [Except.toOption, Bool.beq_eq_decide_eq]

theorem exists_keys {rows : List Row} {keyed : List (List Value × Row)}
    (computed : rows.mapM p.keyed = .ok keyed) :
    ∃ key : Row → List Value, (∀ row ∈ rows, p.groupKey row = .ok (key row)) ∧
      keyed = rows.map fun row => (key row, row) := by
  refine ⟨fun row => (p.groupKey row).toOption.getD [], ?_⟩
  have each := mapM_eq_ok_iff.mp computed
  clear computed
  induction each with
  | nil => exact ⟨by simp, rfl⟩
  | @cons row pair rows keyed first _ ih =>
    obtain ⟨keys, rfl⟩ := ih
    unfold Plan.keyed at first
    cases own : p.groupKey row with
    | error e => rw [own] at first; cases first
    | ok key =>
      rw [own] at first
      cases first
      refine ⟨List.forall_mem_cons.mpr ⟨?_, keys⟩, ?_⟩
      · simp [own, Except.toOption]
      · simp [own, Except.toOption]

/-- With GROUP BY there is a group for each key that occurs, without it one for all rows. -/
theorem groups_eq {rows : List Row} {key : Row → List Value}
    (keys : ∀ row ∈ rows, p.groupKey row = .ok (key row)) :
    p.groups (rows.map fun row => (key row, row)) =
      if p.statement.groupBy = [] then [⟨[], rows⟩]
      else (rows.map key).eraseDups.map fun k => ⟨k, rows.filter fun row => key row == k⟩ := by
  unfold groups
  rw [Group.ofRows_eq]
  cases rows with
  | nil => by_cases whole : p.statement.groupBy = [] <;> simp [whole]
  | cons row rows =>
    rw [List.map_cons, List.eraseDups_cons, List.map_cons]
    split
    · rename_i none
      cases none
    · by_cases whole : p.statement.groupBy = []
      · -- Without GROUP BY every key is empty, and the group of the first row has all rows.
        have noKey (other : Row) (mem : other ∈ row :: rows) : key other = [] := by
          have own := keys other mem
          rw [groupKey, whole] at own
          exact (Except.ok.inj own).symm
        have noOther : ((rows.map key).filter fun k => !k == key row) = [] := by
          refine List.filter_eq_nil_iff.mpr fun k mem => ?_
          obtain ⟨other, later, rfl⟩ := List.mem_map.mp mem
          rw [noKey other (List.mem_cons_of_mem _ later), noKey row List.mem_cons_self]
          simp
        have all : ((row :: rows).filter fun other => key other == key row) = row :: rows := by
          refine List.filter_eq_self.mpr fun other mem => ?_
          rw [noKey other mem, noKey row List.mem_cons_self]
          rfl
        rw [if_pos whole, noOther, List.eraseDups_nil, List.map_nil, all,
          noKey row List.mem_cons_self]
      · rw [if_neg whole]

theorem groupRow_eq (noHaving : p.statement.having = none) (unordered : p.statement.orderBy = [])
    (g : Group) :
    p.groupRow g = (p.groupValues g.rows).map fun values => some ⟨values, []⟩ := by
  unfold groupRow groupValues
  rw [noHaving]
  cases p.columns.mapM fun c => c.expression.evaluate (.ofGroup p.columns [] g.rows) with
  | error e => rfl
  | ok values => simp [sortKeys, unordered, bind, Except.bind, pure, Except.pure, Except.map]

theorem groupRows_eq (noHaving : p.statement.having = none) (unordered : p.statement.orderBy = [])
    (keyed : List (List Value × Row)) :
    p.groupRows keyed = ((p.groups keyed).mapM fun g => p.groupValues g.rows).map
      (·.map fun values => (⟨values, []⟩ : ResultRow)) := by
  unfold groupRows
  rw [funext (groupRow_eq noHaving unordered), mapM_map]
  cases (p.groups keyed).mapM fun g => p.groupValues g.rows with
  | error e => rfl
  | ok rows => simp [Except.map, List.filterMap_map]

/-- A result without HAVING and ORDER BY that can be computed is computed from the groups of all rows
that the scan gives. -/
theorem groups_of_computed (grouped : p.statement.isGrouped = true)
    (noHaving : p.statement.having = none) (unordered : p.statement.orderBy = []) {rows : List Row}
    {stop : Option QueryError} {found : List ResultRow} (computed : p.computed rows stop = .ok found) :
    stop = none ∧ ∃ key : Row → List Value, (∀ row ∈ rows, p.groupKey row = .ok (key row)) ∧
      List.Forall₂ (fun g values => p.groupValues g.rows = .ok values)
        (p.groups (rows.map fun row => (key row, row))) (found.map ResultRow.values) := by
  unfold Plan.computed at computed
  rw [if_pos grouped] at computed
  cases read : (rows.mapM p.keyed).bind (Scan.outcome stop) with
  | error e => rw [read] at computed; cases computed
  | ok keyed =>
    obtain ⟨keysFound, rfl⟩ := Scan.outcome_eq_ok read
    obtain ⟨key, keys, rfl⟩ := exists_keys keysFound
    have made : p.groupRows (rows.map fun row => (key row, row)) = .ok found := by
      rw [read] at computed
      exact computed
    rw [groupRows_eq noHaving unordered] at made
    cases each : (p.groups (rows.map fun row => (key row, row))).mapM
        fun g => p.groupValues g.rows with
    | error e => rw [each] at made; cases made
    | ok values =>
      rw [each] at made
      cases made
      rw [map_values]
      exact ⟨rfl, key, keys, mapM_eq_ok_iff.mp each⟩

theorem perm_groups {rows : List Row} {key : Row → List Value}
    (keys : ∀ row ∈ rows, p.groupKey row = .ok (key row)) :
    ((p.groups (rows.map fun row => (key row, row))).flatMap Group.rows).Perm rows := by
  rw [groups_eq keys]
  split
  · rw [List.flatMap_singleton]
  · rw [List.flatMap_map]
    exact perm_flatMap_filter key rows

/-- The values of a group are those of the columns of the select list, in their order. -/
theorem value_of_groupValues {rows : List Row} {values : List Value}
    (computed : p.groupValues rows = .ok values) {i : Nat} {column : OutputColumn}
    (place : p.columns[i]? = some column) :
    ∃ value, values[i]? = some value ∧
      column.expression.evaluate (.ofGroup p.columns [] rows) = .ok value := by
  obtain ⟨sameLength, each⟩ := List.forall₂_iff_get.mp (mapM_eq_ok_iff.mp computed)
  obtain ⟨within, rfl⟩ := List.getElem?_eq_some_iff.mp place
  have within' : i < values.length := sameLength ▸ within
  exact ⟨values[i], List.getElem?_eq_getElem within', each i within within'⟩

theorem countRows_column {groups : List Group} {rows : List (List Value)}
    (values : List.Forall₂ (fun g row => p.groupValues g.rows = .ok row) groups rows) {i : Nat}
    {column : OutputColumn} (place : p.columns[i]? = some column)
    (counts : column.expression = .countRows) :
    rows.map (·[i]?) =
      (groups.map (·.rows.length)).map fun n => some (.integer (Int64.ofNat n)) := by
  induction values with
  | nil => rfl
  | cons first _ ih =>
    obtain ⟨value, found, evaluated⟩ := value_of_groupValues first place
    rw [counts] at evaluated
    cases evaluated
    rw [List.map_cons, found, ih]
    rfl

theorem arrange_of_plain (every : p.statement.distinct = false) (unordered : p.statement.orderBy = [])
    (noLimit : p.statement.limit = none) (noOffset : p.statement.offset = none)
    (rows : List ResultRow) : p.arrange rows = rows.map ResultRow.values := by
  rw [arrange_of_unordered unordered]
  simp [kept, window, offset, limit, every, noLimit, noOffset]

end Plan

namespace Statement

variable {σ : Type} [RecordSource σ]

theorem make_of_run {s : Statement} {source : σ} {options : QueryOptions} {cursor : Cursor σ}
    (runs : s.run source options = .ok cursor) :
    ∃ p, Plan.make s (RecordSource.columns source) options = .ok p := by
  cases made : Plan.make s (RecordSource.columns source) options with
  | error e => simp [run, made] at runs
  | ok p => exact ⟨p, rfl⟩

/-- A grouped statement that succeeds has a row for each key that occurs among the rows that pass
WHERE, in the order in which the keys first appear, computed over the rows of that key; no row is lost
and none is in two groups. Without GROUP BY there is one row over all rows, even if there are none. -/
theorem grouped_run_partitions (s : Statement) (source : σ) (options : QueryOptions)
    (cursor : Cursor σ) (grouped : s.isGrouped = true) (noHaving : s.having = none)
    (every : s.distinct = false) (unordered : s.orderBy = []) (noLimit : s.limit = none)
    (noOffset : s.offset = none) (runs : s.run source options = .ok cursor) :
    ∃ (p : Plan) (selected : List Row) (keys : List (List Value)) (rows : List (List Value)),
      Plan.make s (RecordSource.columns source) options = .ok p ∧
      p.PassingRows source selected ∧ selected.mapM p.groupKey = .ok keys ∧
      cursor.Delivers rows none ∧
      (s.groupBy ≠ [] →
        List.Forall₂ (fun key row => p.groupValues (p.rowsOfKey selected key) = .ok row)
          keys.eraseDups rows) ∧
      (s.groupBy = [] → ∃ row, rows = [row] ∧ p.groupValues selected = .ok row) ∧
      (keys.eraseDups.flatMap (p.rowsOfKey selected)).Perm selected ∧
      ∀ (i : Nat) (column : OutputColumn), p.columns[i]? = some column →
        column.expression = .countRows →
        ∃ counts : List Nat,
          rows.map (·[i]?) = counts.map (fun n => some (.integer (Int64.ofNat n))) ∧
          counts.sum = selected.length ∧
          (selected.length < 2 ^ 63 → ∀ n ∈ counts, (Int64.ofNat n).toInt = n) := by
  obtain ⟨p, valid⟩ := make_of_run runs
  obtain rfl := statement_of_make valid
  have whole : (p.isStreamable && !options.scrollable) = false := by simp [Plan.isStreamable, grouped]
  obtain ⟨selected, stop, gives⟩ := Scan.exists_gives p ⟨source, none⟩
  obtain ⟨after, result⟩ := run_of_computed valid whole gives
  rw [runs] at result
  cases computed : p.computed selected stop with
  | error e => rw [computed] at result; cases result
  | ok found =>
    rw [computed] at result
    cases result
    obtain ⟨rfl, key, keys, values⟩ :=
      Plan.groups_of_computed grouped noHaving unordered computed
    have keysOf : selected.mapM p.groupKey = .ok (selected.map key) :=
      mapM_eq_ok_iff.mpr (List.forall₂_map_right_iff.mpr (List.forall₂_same.mpr keys))
    have rowsOf : p.rowsOfKey selected = fun k => selected.filter fun row => key row == k :=
      funext (Plan.rowsOfKey_eq keys)
    have sizes := (Plan.perm_groups keys).length_eq
    rw [List.length_flatMap] at sizes
    refine ⟨p, selected, selected.map key, found.map ResultRow.values, valid,
      Plan.passingRows_of_gives gives, keysOf, ?_, ?_, ?_, ?_, ?_⟩
    · rw [← Plan.arrange_of_plain every unordered noLimit noOffset]
      exact Cursor.delivers_buffered rfl rfl (Nat.zero_le _)
    · intro byKeys
      rw [Plan.groups_eq keys, if_neg byKeys, List.forall₂_map_left_iff] at values
      rw [rowsOf]
      exact values
    · intro whole
      rw [Plan.groups_eq keys, if_pos whole] at values
      obtain ⟨row, none, first, atEnd, rows⟩ := List.forall₂_cons_left_iff.mp values
      cases atEnd
      exact ⟨row, rows, first⟩
    · rw [rowsOf]
      exact perm_flatMap_filter key selected
    · intro i column place counts
      refine ⟨_, Plan.countRows_column values place counts, sizes, fun small n mem => ?_⟩
      have most : n ≤ selected.length := sizes ▸ List.le_sum_of_mem mem
      rw [Int64.toInt_ofNat_of_lt (by omega)]

/-- How often each city occurs in a table. -/
theorem grouped_run_partitions_by_city :
    ∃ (cursor : Cursor MemoryTable) (p : Plan) (selected : List Row) (keys : List (List Value)),
      run { columns := [⟨.column none "city", none⟩, ⟨.countRows, none⟩]
            groupBy := [.column none "city"] }
          ⟨["city"], [["Oslo"], ["Bergen"], ["Oslo"]], []⟩ {} = .ok cursor ∧
        cursor.Delivers [[.text "Oslo", .integer 2], [.text "Bergen", .integer 1]] none ∧
        p.PassingRows (⟨["city"], [["Oslo"], ["Bergen"], ["Oslo"]], []⟩ : MemoryTable) selected ∧
        List.Forall₂ (fun key row => p.groupValues (p.rowsOfKey selected key) = .ok row)
          keys.eraseDups [[.text "Oslo", .integer 2], [.text "Bergen", .integer 1]] := by
  obtain ⟨p, selected, keys, rows, -, passing, -, delivers, byKeys, -⟩ := grouped_run_partitions
    { columns := [⟨.column none "city", none⟩, ⟨.countRows, none⟩]
      groupBy := [.column none "city"] }
    (⟨["city"], [["Oslo"], ["Bergen"], ["Oslo"]], []⟩ : MemoryTable) {} _ rfl rfl rfl rfl rfl rfl rfl
  obtain ⟨rfl, -⟩ := delivers.unique (Cursor.delivers_buffered rfl rfl (Nat.zero_le _))
  exact ⟨_, p, selected, keys, rfl, delivers, passing, byKeys (by simp)⟩

end Statement

end PlainTables
