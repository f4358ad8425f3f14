import PlainTables.Proofs.Evaluation.Scope
import PlainTables.Proofs.Query.Distinct
import PlainTables.Proofs.Query.Order
import PlainTables.Proofs.Query.Paging

/-!
# ORDER BY

ORDER BY sorts the rows that a result has without it, and does nothing else: each row is kept, rows are in
the order of their keys, and rows with the same keys stay in the order that they have without it. The keys
of a row are values of the row itself, or they are computed from the record or group that the row is made of.
-/

namespace PlainTables

def ResultRow.unkeyed (r : ResultRow) : ResultRow :=
  ⟨r.values, []⟩

theorem ResultRow.distinct_sublist (seen : List (List Value)) (rows : List ResultRow) :
    (distinct seen rows).Sublist rows := by
  induction rows generalizing seen with
  | nil => exact .slnil
  | cons row rows ih =>
    rw [distinct]
    split
    · exact (ih seen).cons row
    · exact (ih _).cons_cons row

namespace Plan

/-- The value that a row with these values has for an item of ORDER BY: its value at a place or under a
name of the result, or the value of an expression in the scope that the row is computed in. -/
inductive IsSortKey (p : Plan) (values : List Value) (scope : Scope) : Expression → Value → Prop
  | ordinal {n key} : 1 ≤ n.toInt → values[n.toInt.toNat - 1]? = some key →
      IsSortKey p values scope (.literal (.integer n)) key
  | output {q name i key} : p.output.position? name = some i → values[i]? = some key →
      IsSortKey p values scope (.column q name) key
  | column {q name key} : p.output.position? name = none →
      (Expression.column q name).evaluate scope = .ok key →
      IsSortKey p values scope (.column q name) key
  | expression {e key} : (∀ n, e ≠ .literal (.integer n)) → (∀ q name, e ≠ .column q name) →
      e.evaluate scope = .ok key → IsSortKey p values scope e key

def HasKeys (p : Plan) (scope : Scope) (r : ResultRow) : Prop :=
  List.Forall₂ (fun item key => p.IsSortKey r.values scope item.expression key) p.statement.orderBy
    r.sortKeys

def keeps (p : Plan) (scope : Scope) : Except QueryError Bool :=
  match p.statement.having with
  | some c => c.evaluate scope
  | none => .ok true

/-- What a group of rows gives: its row of the result, or none if it does not pass HAVING. -/
inductive OfGroup (p : Plan) (rows : List Row) : Option ResultRow → Prop
  | kept {r} : p.groupValues rows = .ok r.values →
      p.keeps (.ofGroup p.columns r.values rows) = .ok true →
      p.HasKeys (.ofGroup p.columns r.values rows) r → OfGroup p rows (some r)
  | dropped {values} : p.groupValues rows = .ok values →
      p.keeps (.ofGroup p.columns values rows) = .ok false → OfGroup p rows none

/-- The groups of rows with these keys; without GROUP BY all rows are one group. -/
def parts (p : Plan) (selected : List Row) (keys : List (List Value)) : List (List Row) :=
  if p.statement.groupBy = [] then [selected] else keys.eraseDups.map (p.rowsOfKey selected)

/-- The rows of the result, with their keys, before they are made distinct and sorted. -/
inductive MakesRows (p : Plan) (selected : List Row) : List ResultRow → Prop
  | rows {all} : p.statement.isGrouped = false →
      List.Forall₂ (fun row r => p.project row = .ok r.values ∧
        p.HasKeys (.ofAliasedRow p.columns row) r) selected all → MakesRows p selected all
  | groups {keys made} : p.statement.isGrouped = true → selected.mapM p.groupKey = .ok keys →
      List.Forall₂ p.OfGroup (p.parts selected keys) made → MakesRows p selected (made.filterMap id)

def unsorted (p : Plan) (all : List ResultRow) : List ResultRow :=
  if p.statement.distinct then ResultRow.distinct [] all else all

variable {p : Plan}

theorem checkOrder_of_validate (valid : p.validate = .ok ()) :
    ∀ item ∈ p.statement.orderBy, p.checkOrder item = .ok () := by
  obtain ⟨_, -, rest⟩ := bind_eq_ok_iff.mp valid
  obtain ⟨_, -, rest⟩ := bind_eq_ok_iff.mp rest
  obtain ⟨_, -, order⟩ := bind_eq_ok_iff.mp rest
  exact forM_eq_ok order

theorem isSortKey_of_sortKey {values : List Value} {scope : Scope} {item : OrderItem} {key : Value}
    (full : values.length = p.output.size) (checked : p.checkOrder item = .ok ())
    (computed : p.sortKey values scope item = .ok key) :
    p.IsSortKey values scope item.expression key := by
  have found {i : Nat} (within : i < values.length) :
      values[i]? = some (values.getD i .null) := by simp [within]
  unfold sortKey at computed
  unfold checkOrder at checked
  split at computed
  · next n place =>
    rw [place] at checked ⊢
    simp only [ite_eq_right_iff, reduceCtorEq, imp_false, not_or, not_lt] at checked
    cases computed
    exact .ordinal checked.1 (found (by omega))
  · next q name named =>
    rw [named]
    split at computed
    · next i position =>
      cases computed
      have within : i < p.output.names.length := (List.findIdx?_eq_some_iff_getElem.mp position).1
      exact .output position (found (full ▸ within))
    · next position => exact .column position computed
  · next noPlace noName => exact .expression noPlace noName computed

theorem hasKeys_of_sortKeys (valid : p.validate = .ok ()) {scope : Scope} {r : ResultRow}
    (full : r.values.length = p.output.size)
    (computed : p.sortKeys r.values scope = .ok r.sortKeys) : p.HasKeys scope r := by
  have each := (List.forall₂_and_left _ _).mpr
    ⟨checkOrder_of_validate valid, mapM_eq_ok_iff.mp computed⟩
  exact each.imp fun item key ⟨checked, computed⟩ => isSortKey_of_sortKey full checked computed

theorem plainRow_eq_ok (valid : p.validate = .ok ()) {row : Row} {r : ResultRow}
    (computed : p.plainRow row = .ok r) :
    p.project row = .ok r.values ∧ p.HasKeys (.ofAliasedRow p.columns row) r := by
  obtain ⟨values, projects, rest⟩ := bind_eq_ok_iff.mp computed
  obtain ⟨keys, sorts, same⟩ := bind_eq_ok_iff.mp rest
  cases same
  exact ⟨projects, hasKeys_of_sortKeys valid (length_values projects) sorts⟩

theorem groupRow_eq_keeps (g : Group) :
    p.groupRow g = (do
      let values ← p.groupValues g.rows
      let kept ← p.keeps (.ofGroup p.columns values g.rows)
      if kept then
        let keys ← p.sortKeys values (.ofGroup p.columns values g.rows)
        return some ⟨values, keys⟩
      else return none) := by
  unfold groupRow keeps groupValues
  cases p.statement.having <;> rfl

theorem groupRow_eq_ok {g : Group} {made : Option ResultRow} (computed : p.groupRow g = .ok made) :
    ∃ values kept, p.groupValues g.rows = .ok values ∧
      p.keeps (.ofGroup p.columns values g.rows) = .ok kept ∧
      if kept then ∃ keys, p.sortKeys values (.ofGroup p.columns values g.rows) = .ok keys ∧
        made = some ⟨values, keys⟩
      else made = none := by
  rw [groupRow_eq_keeps] at computed
  obtain ⟨values, groups, rest⟩ := bind_eq_ok_iff.mp computed
  obtain ⟨kept, decides, rest⟩ := bind_eq_ok_iff.mp rest
  refine ⟨values, kept, groups, decides, ?_⟩
  cases kept with
  | true =>
    obtain ⟨keys, sorts, same⟩ := bind_eq_ok_iff.mp rest
    cases same
    exact ⟨keys, sorts, rfl⟩
  | false =>
    cases rest
    rfl

theorem ofGroup_of_groupRow (valid : p.validate = .ok ()) {g : Group} {made : Option ResultRow}
    (computed : p.groupRow g = .ok made) : p.OfGroup g.rows made := by
  obtain ⟨values, kept, groups, decides, rest⟩ := groupRow_eq_ok computed
  cases kept with
  | true =>
    obtain ⟨keys, sorts, rfl⟩ := rest
    exact .kept groups decides (hasKeys_of_sortKeys valid (length_values groups) sorts)
  | false =>
    obtain rfl := rest
    exact .dropped groups decides

def unordered (p : Plan) : Plan :=
  { p with statement := { p.statement with orderBy := [] } }

theorem validate_unordered (valid : p.validate = .ok ()) : p.unordered.validate = .ok () := by
  obtain ⟨_, columns, rest⟩ := bind_eq_ok_iff.mp valid
  obtain ⟨_, keys, rest⟩ := bind_eq_ok_iff.mp rest
  obtain ⟨_, aggregates, -⟩ := bind_eq_ok_iff.mp rest
  exact bind_eq_ok_iff.mpr ⟨(), columns, bind_eq_ok_iff.mpr ⟨(), keys,
    bind_eq_ok_iff.mpr ⟨(), aggregates, rfl⟩⟩⟩

theorem plainRow_unordered {row : Row} {r : ResultRow} (computed : p.plainRow row = .ok r) :
    p.unordered.plainRow row = .ok r.unkeyed := by
  obtain ⟨values, projects, rest⟩ := bind_eq_ok_iff.mp computed
  obtain ⟨keys, -, same⟩ := bind_eq_ok_iff.mp rest
  cases same
  have project : p.unordered.project row = .ok values := projects
  rw [plainRow_eq (p := p.unordered) rfl, project]
  rfl

theorem groupRow_unordered {g : Group} {made : Option ResultRow}
    (computed : p.groupRow g = .ok made) :
    p.unordered.groupRow g = .ok (made.map ResultRow.unkeyed) := by
  obtain ⟨values, kept, groups, decides, rest⟩ := groupRow_eq_ok computed
  have groups : p.unordered.groupValues g.rows = .ok values := groups
  have decides : p.unordered.keeps (.ofGroup p.unordered.columns values g.rows) = .ok kept := decides
  rw [groupRow_eq_keeps, groups]
  refine bind_eq_ok_iff.mpr ⟨values, rfl, ?_⟩
  rw [decides]
  cases kept with
  | true =>
    obtain ⟨keys, -, rfl⟩ := rest
    rfl
  | false =>
    obtain rfl := rest
    rfl

section

variable (valid : p.validate = .ok ()) {selected : List Row} {stop : Option QueryError}
  {all : List ResultRow}

include valid

theorem makesRows_of_rows (ungrouped : p.statement.isGrouped = false)
    (computed : p.computed selected stop = .ok all) :
    stop = none ∧ p.MakesRows selected all ∧
      p.unordered.computed selected none = .ok (all.map ResultRow.unkeyed) := by
  have ungrouped' : p.unordered.statement.isGrouped = false := ungrouped
  rw [Plan.computed, ungrouped, if_neg Bool.false_ne_true] at computed
  obtain ⟨made, rfl⟩ := Scan.outcome_eq_ok computed
  have each := mapM_eq_ok_iff.mp made
  refine ⟨rfl, .rows ungrouped (each.imp fun row r => plainRow_eq_ok valid), ?_⟩
  rw [Plan.computed, ungrouped', if_neg Bool.false_ne_true]
  have unkeyed : selected.mapM p.unordered.plainRow = .ok (all.map ResultRow.unkeyed) :=
    mapM_eq_ok_iff.mpr (List.forall₂_map_right_iff.mpr (each.imp fun row r => plainRow_unordered))
  rw [unkeyed]
  rfl

theorem makesRows_of_groups (grouped : p.statement.isGrouped = true)
    (computed : p.computed selected stop = .ok all) :
    stop = none ∧ p.MakesRows selected all ∧
      p.unordered.computed selected none = .ok (all.map ResultRow.unkeyed) := by
  rw [Plan.computed, if_pos grouped] at computed
  obtain ⟨pairs, read, grouping⟩ := bind_eq_ok_iff.mp computed
  obtain ⟨keyed, rfl⟩ := Scan.outcome_eq_ok read
  obtain ⟨key, keys, rfl⟩ := exists_keys keyed
  have keysOf : selected.mapM p.groupKey = .ok (selected.map key) :=
    mapM_eq_ok_iff.mpr (List.forall₂_map_right_iff.mpr (List.forall₂_same.mpr keys))
  have parts : p.parts selected (selected.map key) =
      (p.groups (selected.map fun row => (key row, row))).map Group.rows := by
    rw [groups_eq keys, Plan.parts, funext (rowsOfKey_eq keys)]
    split
    · rfl
    · rw [List.map_map]
      rfl
  cases made : (p.groups (selected.map fun row => (key row, row))).mapM p.groupRow with
  | error e => rw [groupRows, made] at grouping; cases grouping
  | ok rows =>
    rw [groupRows, made] at grouping
    cases grouping
    have each := mapM_eq_ok_iff.mp made
    refine ⟨rfl, .groups grouped keysOf ?_, ?_⟩
    · rw [parts, List.forall₂_map_left_iff]
      exact each.imp fun g made => ofGroup_of_groupRow valid
    · -- Without ORDER BY the rows have the same keys and are in the same groups.
      have grouped' : p.unordered.statement.isGrouped = true := grouped
      have keyed' : selected.mapM p.unordered.keyed =
          .ok (selected.map fun row => (key row, row)) := keyed
      have groups : p.unordered.groups = p.groups := rfl
      have unkeyed : (p.groups (selected.map fun row => (key row, row))).mapM p.unordered.groupRow =
          .ok (rows.map (·.map ResultRow.unkeyed)) :=
        mapM_eq_ok_iff.mpr
          (List.forall₂_map_right_iff.mpr (each.imp fun g made => groupRow_unordered))
      rw [Plan.computed, if_pos grouped', keyed']
      change p.unordered.groupRows _ = _
      rw [groupRows, groups, unkeyed]
      simp [Except.map, List.filterMap_map, List.map_filterMap]

end

theorem makesRows_of_computed (valid : p.validate = .ok ()) {selected : List Row}
    {stop : Option QueryError} {all : List ResultRow} (computed : p.computed selected stop = .ok all) :
    stop = none ∧ p.MakesRows selected all ∧
      p.unordered.computed selected none = .ok (all.map ResultRow.unkeyed) := by
  cases grouped : p.statement.isGrouped with
  | true => exact makesRows_of_groups valid grouped computed
  | false => exact makesRows_of_rows valid grouped computed

theorem MakesRows.hasKeys {selected : List Row} {all : List ResultRow} (makes : p.MakesRows selected all) :
    ∀ r ∈ all, ∃ scope, p.HasKeys scope r := by
  cases makes with
  | rows _ each => exact forall_mem_of_forall₂ each fun _ _ made => ⟨_, made.2⟩
  | groups _ _ each =>
    have kept := forall_mem_of_forall₂ (S := fun made : Option ResultRow =>
      ∀ r, made = some r → ∃ scope, p.HasKeys scope r) each fun rows made group r same => by
        subst same
        cases group with
        | kept _ _ keys => exact ⟨_, keys⟩
    intro r mem
    obtain ⟨made, inside, same⟩ := List.mem_filterMap.mp mem
    exact kept made inside r same

theorem mem_of_mem_unsorted {all : List ResultRow} {r : ResultRow} (mem : r ∈ p.unsorted all) :
    r ∈ all := by
  unfold unsorted at mem
  split at mem
  · exact (ResultRow.distinct_sublist [] all).subset mem
  · exact mem

theorem MakesRows.length_sortKeys {selected : List Row} {all : List ResultRow}
    (makes : p.MakesRows selected all) :
    ∀ r ∈ p.unsorted all, r.sortKeys.length = p.statement.orderBy.length := by
  intro r mem
  obtain ⟨scope, keys⟩ := makes.hasKeys r (mem_of_mem_unsorted mem)
  exact (List.Forall₂.length_eq keys).symm

theorem ordered_eq_mergeSort (ordered : p.statement.orderBy ≠ []) (all : List ResultRow) :
    p.ordered all = (p.unsorted all).mergeSort
      fun a b => ResultRow.compare p.statement.orderBy a.sortKeys b.sortKeys ≠ .gt := by
  rw [Plan.ordered, if_neg (by simpa using ordered)]
  rfl

theorem arrange_of_unlimited (noLimit : p.statement.limit = none)
    (noOffset : p.statement.offset = none) (rows : List ResultRow) :
    p.arrange rows = (p.ordered rows).map ResultRow.values := by
  rw [arrange_eq_window, window_of_unlimited noLimit noOffset]

/-- Without keys the rows are the same, and only their order is not settled. -/
theorem kept_unkeyed (noLimit : p.statement.limit = none) (noOffset : p.statement.offset = none)
    (all : List ResultRow) :
    p.unordered.kept ((all.map ResultRow.unkeyed).map ResultRow.values) =
      (p.unsorted all).map ResultRow.values := by
  have values : (all.map ResultRow.unkeyed).map ResultRow.values = all.map ResultRow.values :=
    List.map_map
  have ordered : p.unordered.ordered all = p.unsorted all := rfl
  rw [values, ← arrange_of_unordered (p := p.unordered) rfl,
    arrange_of_unlimited (p := p.unordered) noLimit noOffset, ordered]

end Plan

namespace Statement

variable {σ : Type} [RecordSource σ]

/-- A statement without ORDER BY that can be computed delivers its rows, streamed or as a whole. -/
theorem run_of_unordered {s : Statement} {source : σ} {options : QueryOptions} {p : Plan}
    {selected : List Row} {rows : List ResultRow}
    (valid : Plan.make s (RecordSource.columns source) options = .ok p)
    (unordered : p.statement.orderBy = []) (gives : Scan.Gives p ⟨source, none⟩ selected none)
    (computed : p.computed selected none = .ok rows) :
    ∃ cursor, s.run source options = .ok cursor ∧
      cursor.Delivers (p.kept (rows.map ResultRow.values)) none := by
  by_cases streamed : (p.isStreamable && !options.scrollable) = true
  · refine ⟨_, run_of_streamable valid streamed, delivers_of_start gives ?_⟩
    have ungrouped : p.statement.isGrouped = false := by
      obtain ⟨streamable, -⟩ := Bool.and_eq_true_iff.mp streamed
      simpa using (Bool.and_eq_true_iff.mp streamable).1
    rw [Plan.computed_of_plain ungrouped unordered] at computed
    cases projects : selected.mapM p.project with
    | error e => rw [projects] at computed; cases computed
    | ok projected =>
      rw [projects] at computed
      cases computed
      rw [Plan.produced_of_projects _ _ _ projects, Plan.map_values, Plan.unseen_of_distinct]
      rfl
  · have whole : (p.isStreamable && !options.scrollable) = false := by simpa using streamed
    obtain ⟨after, result⟩ := run_of_computed valid whole gives
    rw [computed] at result
    refine ⟨_, result, ?_⟩
    rw [← Plan.arrange_of_unordered unordered]
    exact Cursor.delivers_buffered rfl rfl (Nat.zero_le _)

/-- A statement without groups and order delivers what it makes of the rows that pass WHERE. -/
theorem run_of_projects {s : Statement} {source : σ} {options : QueryOptions} {p : Plan}
    {selected : List Row} {projected : List (List Value)}
    (valid : Plan.make s (RecordSource.columns source) options = .ok p) (ungrouped : s.isGrouped = false)
    (unordered : s.orderBy = []) (passing : p.PassingRows source selected)
    (projects : selected.mapM p.project = .ok projected) :
    ∃ cursor, s.run source options = .ok cursor ∧ cursor.Delivers (p.kept projected) none := by
  obtain rfl := statement_of_make valid
  have computed := Plan.computed_of_plain ungrouped unordered selected none
  rw [projects] at computed
  obtain ⟨cursor, runs, delivers⟩ := run_of_unordered valid unordered passing.gives computed
  rw [Plan.map_values] at delivers
  exact ⟨cursor, runs, delivers⟩

/-- ORDER BY sorts the rows that the result has without it: if the keys of each item are of one type or
null, the result has the same rows in the order of their keys, and rows with the same keys in the order
that they have without ORDER BY. An expression over columns of the table that is no part of the result has
its value on the record itself. -/
theorem ordered_run_sorts (s : Statement) (source : σ) (options : QueryOptions) (cursor : Cursor σ)
    (ordered : s.orderBy ≠ []) (noLimit : s.limit = none) (noOffset : s.offset = none)
    (runs : s.run source options = .ok cursor) :
    ∃ (p : Plan) (selected : List Row) (all found : List ResultRow) (plain : Cursor σ),
      Plan.make s (RecordSource.columns source) options = .ok p ∧ p.PassingRows source selected ∧
      p.MakesRows selected all ∧ found = p.unsorted all ∧
      (∀ row ∈ selected, ∀ e : Expression, e.containsAggregate = false →
        (∀ name ∈ e.columnNames true, p.isKnown name = true) →
          e.evaluate (.ofAliasedRow p.columns row) = e.evaluate (.ofRow row)) ∧
      Statement.run { s with orderBy := [] } source options = .ok plain ∧
      plain.Delivers (found.map ResultRow.values) none ∧
      (ResultRow.Uniform s.orderBy found → ∃ sorted : List ResultRow,
        cursor.Delivers (sorted.map ResultRow.values) none ∧ sorted.Perm found ∧
        sorted.Pairwise (fun a b => a.sortKeys = b.sortKeys ∨
          Precedes s.orderBy a.sortKeys b.sortKeys) ∧
        ∀ keys, sorted.filter (fun row => row.sortKeys = keys) =
          found.filter fun row => row.sortKeys = keys) := by
  obtain ⟨p, valid⟩ := make_of_run runs
  obtain rfl := statement_of_make valid
  obtain ⟨made, checked⟩ := Plan.make_eq_ok_iff.mp valid
  have whole : (p.isStreamable && !options.scrollable) = false := by
    simp [Plan.isStreamable, ordered]
  obtain ⟨selected, stop, gives⟩ := Scan.exists_gives p ⟨source, none⟩
  obtain ⟨after, result⟩ := run_of_computed valid whole gives
  rw [runs] at result
  cases computed : p.computed selected stop with
  | error e => rw [computed] at result; cases result
  | ok all =>
    rw [computed] at result
    cases result
    obtain ⟨rfl, makes, computed'⟩ := Plan.makesRows_of_computed checked computed
    have covers : ∀ row ∈ selected, p.Covers row := gives.covers (by simp)
    -- Without ORDER BY the statement is run on the same rows of the table, streamed or as a whole.
    have valid' : Plan.make p.unordered.statement (RecordSource.columns source) options =
        .ok p.unordered :=
      Plan.make_eq_ok_iff.mpr ⟨by rw [made]; rfl, Plan.validate_unordered checked⟩
    have gives' : Scan.Gives p.unordered ⟨source, none⟩ selected none :=
      gives.transfer (p := p) (q := p.unordered) (fun _ => rfl) (fun _ _ => rfl) fun _ => rfl
    obtain ⟨plain, runs', delivers'⟩ := run_of_unordered valid' rfl gives' computed'
    refine ⟨p, selected, all, _, plain, valid, Plan.passingRows_of_gives gives, makes, rfl,
      fun row mem e plain known => (covers row mem).evaluate_ofAliasedRow plain known, runs', ?_, ?_⟩
    · rw [← Plan.kept_unkeyed noLimit noOffset]
      exact delivers'
    · intro uniform
      refine ⟨p.ordered all, ?_, ?_, ?_, ?_⟩
      · rw [← Plan.arrange_of_unlimited noLimit noOffset]
        exact Cursor.delivers_buffered rfl rfl (Nat.zero_le _)
      · rw [Plan.ordered_eq_mergeSort ordered]
        exact List.mergeSort_perm _ _
      · rw [Plan.ordered_eq_mergeSort ordered]
        exact ResultRow.pairwise_precedes makes.length_sortKeys uniform
      · rw [Plan.ordered_eq_mergeSort ordered]
        exact ResultRow.filter_mergeSort_eq makes.length_sortKeys uniform

/-- The names of a table with their years, those of the last year first. -/
theorem ordered_run_sorts_years :
    ∃ cursor : Cursor MemoryTable,
      run { columns := [⟨.column none "name", none⟩, ⟨.column none "year", none⟩]
            orderBy := [⟨.column none "YEAR", .descending⟩] }
          ⟨["name", "year"], [["a", "2"], ["b", ""], ["c", "2"], ["d", "3"]], []⟩
          { scrollable := true } = .ok cursor ∧
        cursor.Delivers [[.text "d", .integer 3], [.text "a", .integer 2], [.text "c", .integer 2],
          [.text "b", .null]] none := by
  obtain ⟨p, selected, all, found, plain, valid, -, makes, same, -, runs, delivers, sorts⟩ :=
    ordered_run_sorts { columns := [⟨.column none "name", none⟩, ⟨.column none "year", none⟩]
                        orderBy := [⟨.column none "YEAR", .descending⟩] }
      (⟨["name", "year"], [["a", "2"], ["b", ""], ["c", "2"], ["d", "3"]], []⟩ : MemoryTable)
      { scrollable := true } _ (by simp) rfl rfl rfl
  obtain ⟨rfl, -⟩ := Plan.make_eq_ok_iff.mp valid
  obtain rfl := Except.ok.inj runs
  obtain rfl : found = all := same
  have rows : found.map ResultRow.values = [[.text "a", .integer 2], [.text "b", .null],
      [.text "c", .integer 2], [.text "d", .integer 3]] :=
    (delivers.unique (Cursor.delivers_buffered rfl rfl (Nat.zero_le _))).1
  have uniform : ResultRow.Uniform [⟨.column none "YEAR", .descending⟩] found := by
    intro i within
    refine ⟨.integer, by decide, fun row mem key place => ?_⟩
    obtain rfl : i = 0 := by simpa using within
    have values : row.values ∈ found.map ResultRow.values := List.mem_map_of_mem mem
    rw [rows] at values
    obtain ⟨scope, keys⟩ := makes.hasKeys row mem
    obtain ⟨key', none, isKey, noKeys, keys⟩ := List.forall₂_cons_left_iff.mp keys
    rw [keys] at place
    cases place
    cases isKey with
    | output position found =>
      cases position
      simp only [List.mem_cons, List.not_mem_nil, or_false] at values
      rcases values with values | values | values | values <;> rw [values] at found <;> cases found
      · exact .inr rfl
      · exact .inl rfl
      · exact .inr rfl
      · exact .inr rfl
    | column position => cases position
    | expression _ noName => exact absurd rfl (noName _ _)
  obtain ⟨sorted, delivers, -⟩ := sorts uniform
  let year (name : String) (value : Value) : ResultRow := ⟨[.text name, value], [value]⟩
  have sort : [year "a" (.integer 2), year "b" .null, year "c" (.integer 2), year "d" (.integer 3)].mergeSort
      (fun a b => ResultRow.compare [⟨.column none "YEAR", .descending⟩] a.sortKeys b.sortKeys ≠ .gt) =
      [year "d" (.integer 3), year "a" (.integer 2), year "c" (.integer 2), year "b" .null] := by
    have equal : ResultRow.compare [⟨.column none "YEAR", .descending⟩] [.integer 2] [.integer 2] = .eq := by
      decide
    have before : ResultRow.compare [⟨.column none "YEAR", .descending⟩] [.integer 2] [.null] = .lt := by
      decide
    have after : ResultRow.compare [⟨.column none "YEAR", .descending⟩] [.null] [.integer 2] = .gt := by
      decide
    have last : ResultRow.compare [⟨.column none "YEAR", .descending⟩] [.integer 2] [.integer 3] = .gt := by
      decide
    simp [List.mergeSort, List.MergeSort.Internal.splitInTwo, year, equal, before, after, last]
  have values : sorted.map ResultRow.values = [[.text "d", .integer 3], [.text "a", .integer 2],
      [.text "c", .integer 2], [.text "b", .null]] :=
    (delivers.unique (Cursor.delivers_buffered rfl rfl (Nat.zero_le _))).1.trans
      (congrArg (List.map ResultRow.values) sort)
  exact ⟨_, rfl, values ▸ delivers⟩

end Statement

end PlainTables
