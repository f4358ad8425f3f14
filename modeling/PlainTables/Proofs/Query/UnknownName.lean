import PlainTables.Proofs.Evaluation.UnknownName
import PlainTables.Proofs.Query.Distinct
import PlainTables.Proofs.Query.Sorting

/-!
# Unknown names of a query

Which names a query can fail for is known once it has been checked, except for names of the result
that are grouped by and names in expressions that are ordered by: whether these are asked for, and
found, depends on the rows.
-/

namespace PlainTables

theorem Scan.Gives.reads_unknown {σ : Type} [RecordSource σ] {p : Plan} {scan : Scan σ}
    {rows : List Row} {stop : Option QueryError} (gives : Gives p scan rows stop) {name : String}
    (fails : stop = some (.unknownColumn name)) :
    ∃ states, RecordSource.Reads scan.source states stop := by
  induction gives with
  | ended result => cases fails
  | failed result => exact ⟨[], .failed result⟩
  | untyped _ wrong =>
    cases fails
    exact (KnowsNames.of_isType (failsOnly_typedRow p _ _) name wrong).elim
  | undecided _ _ wrong =>
    cases fails
    exact (p.knowsNames_passes _ name wrong).elim
  | dropped result _ _ _ ih =>
    obtain ⟨states, reads⟩ := ih fails
    exact ⟨_, .record result reads⟩
  | kept result _ _ _ ih =>
    obtain ⟨states, reads⟩ := ih fails
    exact ⟨_, .record result reads⟩

namespace Plan

/-- The name is no column of the table, and the first column of the result that has been given it, if
there is one, has no value for some row. -/
structure Unresolved (p : Plan) (rows : List Row) (name : String) : Prop where
  unknown : p.isKnown name = false
  unnamed : ∀ c, p.columns.find? (·.isNamed name) = some c →
    c.expression.containsAggregate = true ∨
      ∃ row ∈ rows, ∃ e, c.expression.evaluate (.ofRow row) = .error e

/-- The names that a checked query can still fail for. -/
inductive LeavesOpen (p : Plan) (rows : List Row) (name : String) : Prop
  /-- A name of the result that is grouped by. -/
  | groupKey {e : Expression} (mem : e ∈ p.statement.groupBy) (named : name ∈ e.columnNames false)
      (isAlias : p.isAlias name = true) (unresolved : p.Unresolved rows name)
  /-- A name in an expression that rows are ordered by. -/
  | orderKey {item : OrderItem} (mem : item ∈ p.statement.orderBy)
      (computed : ∀ q own, item.expression ≠ .column q own)
      (named : name ∈ item.expression.columnNames false)
      (ungrouped : p.statement.isGrouped = false) (unresolved : p.Unresolved rows name)
  /-- A name in an expression that groups are ordered by, outside of aggregates. -/
  | groupOrderKey {item : OrderItem} (mem : item ∈ p.statement.orderBy)
      (computed : ∀ q own, item.expression ≠ .column q own)
      (named : name ∈ item.expression.columnNames false)
      (grouped : p.statement.isGrouped = true) (unnamed : p.isAlias name = false)
      (absent : p.isKnown name = false ∨ rows = [])
  /-- A name in an aggregate that groups are ordered by. -/
  | orderAggregate {item : OrderItem} (mem : item ∈ p.statement.orderBy)
      (named : name ∈ item.expression.columnNames true)
      (grouped : p.statement.isGrouped = true) (unknown : p.isKnown name = false)

/-- Only columns of the table are grouped by, and only columns, places and literals are ordered by. -/
structure Settled (p : Plan) : Prop where
  groupBy : ∀ e ∈ p.statement.groupBy, ∀ name ∈ e.columnNames false, p.isKnown name = true
  orderBy : ∀ item ∈ p.statement.orderBy,
    (∃ q own, item.expression = .column q own ∧ p.isKnown own = true) ∨
      item.expression.columnNames true = []

variable {p : Plan} {rows : List Row}

theorem Settled.not_leavesOpen (settled : p.Settled) (name : String) : ¬p.LeavesOpen rows name := by
  have noNames {item : OrderItem} (mem : item ∈ p.statement.orderBy)
      (computed : ∀ q own, item.expression ≠ .column q own) :
      item.expression.columnNames true = [] := by
    rcases settled.orderBy item mem with ⟨q, own, same, -⟩ | none
    · exact absurd same (computed q own)
    · exact none
  intro leaves
  cases leaves with
  | groupKey mem named _ unresolved =>
    cases unresolved.unknown.symm.trans (settled.groupBy _ mem name named)
  | @orderKey item mem computed named =>
    have inside := item.expression.columnNames_false_subset named
    rw [noNames mem computed] at inside
    cases inside
  | @groupOrderKey item mem computed named =>
    have inside := item.expression.columnNames_false_subset named
    rw [noNames mem computed] at inside
    cases inside
  | @orderAggregate item mem named _ unknown =>
    rcases settled.orderBy item mem with ⟨q, own, same, known⟩ | none
    · rw [same, Expression.columnNames, List.mem_singleton] at named
      subst named
      cases unknown.symm.trans known
    · rw [none] at named
      cases named

section

variable {row : Row} (covers : p.Covers row)

include covers

theorem Covers.knowsNames_ofRow {e : Expression}
    (known : ∀ name ∈ e.columnNames true, p.isKnown name = true) :
    KnowsNames (e.evaluate (.ofRow row)) := by
  refine (e.asksFor_evaluate _).mono ?_
  rintro name (⟨named, absent⟩ | ⟨_, noGroup, _⟩)
  · obtain ⟨v, found⟩ := covers.exists_get? (known name (e.columnNames_false_subset named))
    cases found.symm.trans absent
  · cases noGroup

theorem Covers.knowsNames_project (checked : p.checkColumns = .ok ()) :
    KnowsNames (p.project row) :=
  AsksFor.mapM fun _ mem =>
    covers.knowsNames_ofRow fun _ named => known_of_checkColumns checked mem named

/-- A row with the names of the select list gives no value only to a name that is not resolved. -/
theorem Covers.unresolved {name : String} (mem : row ∈ rows)
    (absent : (Scope.ofAliasedRow p.columns row).lookup name = none) : p.Unresolved rows name := by
  unfold Scope.ofAliasedRow at absent
  cases own : row.get? name with
  | some v =>
    simp only [own] at absent
    cases absent
  | none =>
    refine ⟨?_, ?_⟩
    · rw [← covers.get?_isSome name, own]
      rfl
    · intro c first
      by_cases aggregates : c.expression.containsAggregate = true
      · exact .inl aggregates
      · cases value : c.expression.evaluate (.ofRow row) with
        | error e => exact .inr ⟨row, mem, e, value⟩
        | ok v =>
          simp only [own, first, aggregates, value] at absent
          cases absent

theorem Covers.asksFor_ofAliasedRow (mem : row ∈ rows) (e : Expression) :
    AsksFor (fun name => name ∈ e.columnNames false ∧ p.Unresolved rows name)
      (e.evaluate (.ofAliasedRow p.columns row)) := by
  refine (e.asksFor_evaluate _).mono ?_
  rintro name (⟨named, absent⟩ | ⟨_, noGroup, _⟩)
  · exact ⟨named, covers.unresolved mem absent⟩
  · cases noGroup

end

theorem isAlias_of_validate (valid : p.validate = .ok ()) {e : Expression}
    (mem : e ∈ p.statement.groupBy) {name : String} (named : name ∈ e.columnNames true)
    (unknown : p.isKnown name = false) : p.isAlias name = true := by
  obtain ⟨_, -, rest⟩ := bind_eq_ok_iff.mp valid
  obtain ⟨_, checked, -⟩ := bind_eq_ok_iff.mp rest
  simp only [checkGroupBy] at checked
  split at checked
  · cases checked
  · rename_i noneMissing
    have found := List.find?_eq_none.mp noneMissing name (List.mem_flatMap.mpr ⟨e, mem, named⟩)
    simpa [unknown] using found

theorem Covers.asksFor_keyed {row : Row} (covers : p.Covers row) (valid : p.validate = .ok ())
    (mem : row ∈ rows) : AsksFor (p.LeavesOpen rows) (p.keyed row) := by
  refine AsksFor.map _ (AsksFor.mapM fun e inside => ?_)
  refine (covers.asksFor_ofAliasedRow mem e).mono ?_
  rintro name ⟨named, unresolved⟩
  exact .groupKey inside named (isAlias_of_validate valid inside
    (e.columnNames_false_subset named) unresolved.unknown) unresolved

theorem Covers.asksFor_sortKey {row : Row} (covers : p.Covers row) (valid : p.validate = .ok ())
    (ungrouped : p.statement.isGrouped = false) (mem : row ∈ rows) (values : List Value)
    {item : OrderItem} (inside : item ∈ p.statement.orderBy) :
    AsksFor (p.LeavesOpen rows) (p.sortKey values (.ofAliasedRow p.columns row) item) := by
  have checked := checkOrder_of_validate valid item inside
  unfold sortKey
  unfold checkOrder at checked
  split
  · exact .ok _
  · rename_i q own same
    rw [same] at checked
    simp only at checked
    split
    · exact .ok _
    · rename_i absent
      have known : p.isKnown own = true := by
        rw [absent, ungrouped] at checked
        by_contra unknown
        simp [unknown] at checked
      refine .of_knows ?_
      intro name fails
      obtain ⟨named, unresolved⟩ :=
        covers.asksFor_ofAliasedRow mem (.column q own) name fails
      rw [Expression.columnNames, List.mem_singleton] at named
      subst named
      cases unresolved.unknown.symm.trans known
  · rename_i noPlace noColumn
    refine (covers.asksFor_ofAliasedRow mem item.expression).mono ?_
    rintro name ⟨named, unresolved⟩
    exact .orderKey inside (fun q own same => noColumn q own same) named ungrouped unresolved

theorem Covers.asksFor_plainRow {row : Row} (covers : p.Covers row) (valid : p.validate = .ok ())
    (ungrouped : p.statement.isGrouped = false) (mem : row ∈ rows) :
    AsksFor (p.LeavesOpen rows) (p.plainRow row) := by
  refine AsksFor.bind (.of_knows (covers.knowsNames_project (checkColumns_of_validate valid))) ?_
  intro values _
  refine AsksFor.bind (AsksFor.mapM fun item inside => ?_) fun keys _ => .ok _
  exact covers.asksFor_sortKey valid ungrouped mem values inside

theorem plain_of_validate (valid : p.validate = .ok ()) (grouped : p.statement.isGrouped = true)
    (whole : p.statement.groupBy = []) :
    (p.columns.flatMap fun c => c.expression.columnNames false) = [] := by
  obtain ⟨_, -, rest⟩ := bind_eq_ok_iff.mp valid
  obtain ⟨_, -, rest⟩ := bind_eq_ok_iff.mp rest
  obtain ⟨_, checked, -⟩ := bind_eq_ok_iff.mp rest
  rw [checkAggregates, grouped, whole] at checked
  simp only [List.isEmpty_nil, Bool.and_self, if_true] at checked
  split at checked
  · cases checked
  · assumption

theorem isAlias_of_lookup_ofGroup {outputs : List Value} (full : outputs.length = p.columns.length)
    {members : List Row} {name : String}
    (absent : (Scope.ofGroup p.columns outputs members).lookup name = none) :
    p.isAlias name = false := by
  cases given : p.isAlias name with
  | false => rfl
  | true =>
    cases place : p.columns.findIdx? (·.isNamed name) with
    | none =>
      have unnamed := List.findIdx?_eq_none_iff.mp place
      obtain ⟨c, mem, named⟩ := List.any_eq_true.mp given
      cases (unnamed c mem).symm.trans named
    | some i =>
      have within : i < outputs.length := full ▸ (List.findIdx?_eq_some_iff_getElem.mp place).1
      unfold Scope.ofGroup at absent
      cases own : members.head?.bind (·.get? name) with
      | some v =>
        simp only [own] at absent
        cases absent
      | none =>
        simp only [own, place, Option.bind_some, List.getElem?_eq_getElem within] at absent
        cases absent

/-- A group has some of the rows, and none only if it is that of a table without rows. -/
structure GroupOf (p : Plan) (rows : List Row) (g : Group) : Prop where
  subset : g.rows ⊆ rows
  ne_nil : g.rows = [] → p.statement.groupBy = [] ∧ rows = []

theorem groupOf_of_mem_groups {key : Row → List Value}
    (keys : ∀ row ∈ rows, p.groupKey row = .ok (key row)) {g : Group}
    (mem : g ∈ p.groups (rows.map fun row => (key row, row))) : p.GroupOf rows g := by
  rw [groups_eq keys] at mem
  split at mem
  · rename_i whole
    rw [List.mem_singleton.mp mem]
    exact ⟨List.Subset.refl rows, fun none => ⟨whole, none⟩⟩
  · obtain ⟨k, inside, rfl⟩ := List.mem_map.mp mem
    obtain ⟨row, here, own⟩ := List.mem_map.mp (List.mem_eraseDups.mp inside)
    refine ⟨List.filter_subset_self _, fun none => ?_⟩
    have kept : row ∈ rows.filter fun row => key row == k :=
      List.mem_filter.mpr ⟨here, by simpa using own⟩
    rw [show (rows.filter fun row => key row == k) = [] from none] at kept
    cases kept

section

variable {g : Group} (group : p.GroupOf rows g) (covers : ∀ row ∈ rows, p.Covers row)
  (valid : p.validate = .ok ())

include group covers valid

omit valid in
theorem GroupOf.lookup_known (outputs : List Value) {name : String}
    (known : p.isKnown name = true)
    (absent : (Scope.ofGroup p.columns outputs g.rows).lookup name = none) :
    p.statement.groupBy = [] ∧ rows = [] := by
  refine group.ne_nil (List.head?_eq_none_iff.mp ?_)
  cases first : g.rows.head? with
  | none => rfl
  | some row =>
    have here : row ∈ rows := group.subset (List.mem_of_mem_head? first)
    obtain ⟨v, found⟩ := (covers row here).exists_get? known
    simp only [Scope.ofGroup, first, Option.bind_some, found] at absent
    cases absent

omit valid in
/-- What a group misses are names that its rows and its outputs have no value for. -/
theorem GroupOf.misses (outputs : List Value) {e : Expression} {name : String}
    (misses : e.Misses (.ofGroup p.columns outputs g.rows) name) :
    (name ∈ e.columnNames false ∧
        (Scope.ofGroup p.columns outputs g.rows).lookup name = none) ∨
      name ∈ e.columnNames true ∧ p.isKnown name = false := by
  rcases misses with inScope | ⟨members, same, row, mem, absent, named⟩
  · exact .inl inScope
  · have here : row ∈ rows := group.subset (Option.some.inj same ▸ mem)
    refine .inr ⟨named, ?_⟩
    rw [← (covers row here).get?_isSome name, absent]
    rfl

theorem GroupOf.knowsNames_groupValues (grouped : p.statement.isGrouped = true) :
    KnowsNames (p.groupValues g.rows) := by
  refine AsksFor.mapM fun c mem => ((c.expression.asksFor_evaluate _).mono ?_)
  have known {name : String} (named : name ∈ c.expression.columnNames true) :
      p.isKnown name = true := known_of_checkColumns (checkColumns_of_validate valid) mem named
  intro name misses
  rcases group.misses covers [] misses with ⟨named, absent⟩ | ⟨named, unknown⟩
  · -- only the group of a whole table can be without rows, and it has no plain columns
    have isKnown := known (c.expression.columnNames_false_subset named)
    obtain ⟨whole, -⟩ := group.lookup_known covers [] isKnown absent
    have plain := plain_of_validate valid grouped whole
    have inside : name ∈ p.columns.flatMap fun c => c.expression.columnNames false :=
      List.mem_flatMap.mpr ⟨c, mem, named⟩
    rw [plain] at inside
    cases inside
  · cases unknown.symm.trans (known named)

theorem GroupOf.asksFor_sortKey (grouped : p.statement.isGrouped = true) {values : List Value}
    (full : values.length = p.columns.length) {item : OrderItem}
    (inside : item ∈ p.statement.orderBy) :
    AsksFor (p.LeavesOpen rows) (p.sortKey values (.ofGroup p.columns values g.rows) item) := by
  have checked := checkOrder_of_validate valid item inside
  unfold sortKey
  unfold checkOrder at checked
  split
  · exact .ok _
  · rename_i q own same
    rw [same] at checked
    simp only at checked
    split
    · exact .ok _
    · rename_i absent
      rw [absent, grouped] at checked
      cases checked
  · rename_i noPlace noColumn
    refine (item.expression.asksFor_evaluate _).mono fun name misses => ?_
    rcases group.misses covers values misses with ⟨named, absent⟩ | ⟨named, unknown⟩
    · refine .groupOrderKey inside (fun q own same => noColumn q own same) named grouped ?_ ?_
      · exact isAlias_of_lookup_ofGroup full absent
      · cases known : p.isKnown name with
        | false => exact .inl rfl
        | true => exact .inr (group.lookup_known covers values known absent).2
    · exact .orderAggregate inside named grouped unknown

theorem GroupOf.asksFor_groupRow (grouped : p.statement.isGrouped = true) :
    AsksFor (p.LeavesOpen rows) (p.groupRow g) := by
  rw [groupRow_eq_keeps]
  refine AsksFor.bind (.of_knows (group.knowsNames_groupValues covers valid grouped)) ?_
  intro values computed
  have full : values.length = p.columns.length := (mapM_eq_ok_iff.mp computed).length_eq.symm
  refine AsksFor.bind (.of_knows ?_) fun kept _ => ?_
  · unfold keeps
    split
    · exact Condition.knowsNames_evaluate _ _
    · exact .ok _
  · cases kept with
    | false => exact .ok _
    | true =>
      refine AsksFor.bind (AsksFor.mapM fun item inside => ?_) fun keys _ => .ok _
      exact group.asksFor_sortKey covers valid grouped full inside

end

/-- A query that has been checked fails for an unknown name if the table does, or for one of those that
are left open. -/
theorem asksFor_computed (valid : p.validate = .ok ()) (covers : ∀ row ∈ rows, p.Covers row)
    (stop : Option QueryError) :
    AsksFor (fun name => stop = some (.unknownColumn name) ∨ p.LeavesOpen rows name)
      (p.computed rows stop) := by
  have stopped {α : Type} (a : α) :
      AsksFor (fun name => stop = some (.unknownColumn name) ∨ p.LeavesOpen rows name)
        (Scan.outcome stop a) := by
    cases stop with
    | none => exact .ok a
    | some e => exact fun name fails => .inl (congrArg some (Except.error.inj fails))
  have opens {α : Type} {x : Except QueryError α} (asks : AsksFor (p.LeavesOpen rows) x) :
      AsksFor (fun name => stop = some (.unknownColumn name) ∨ p.LeavesOpen rows name) x :=
    asks.mono fun _ => .inr
  unfold computed
  split
  · rename_i grouped
    refine AsksFor.bind (AsksFor.bind (opens (.mapM ?_)) fun keyed _ => stopped keyed) ?_
    · intro row mem
      exact (covers row mem).asksFor_keyed valid mem
    · intro keyed read
      obtain ⟨key, keys, rfl⟩ := exists_keys (Scan.outcome_eq_ok read).1
      refine opens (AsksFor.map _ (AsksFor.mapM fun g mem => ?_))
      exact (groupOf_of_mem_groups keys mem).asksFor_groupRow covers valid grouped
  · rename_i ungrouped
    refine AsksFor.bind (opens (.mapM ?_)) fun found _ => stopped found
    intro row mem
    exact (covers row mem).asksFor_plainRow valid (by simpa using ungrouped) mem

theorem unknown_of_produced (valid : p.validate = .ok ()) (covers : ∀ row ∈ rows, p.Covers row)
    {stop : Option QueryError} (seen : Option (List (List Value))) (toSkip : Nat)
    (toGive : Option Nat) {name : String}
    (fails : (p.produced stop seen toSkip toGive rows).2 = some (.unknownColumn name)) :
    stop = some (.unknownColumn name) := by
  induction rows generalizing seen toSkip toGive with
  | nil =>
    by_cases full : toGive = some 0
    · rw [full, produced_full] at fails
      cases fails
    · rwa [produced_nil _ _ full] at fails
  | cons row rows ih =>
    have later := ih fun row mem => covers row (List.mem_cons_of_mem _ mem)
    by_cases full : toGive = some 0
    · rw [full, produced_full] at fails
      cases fails
    · rw [produced_cons _ _ full] at fails
      cases projected : p.project row with
      | error e =>
        rw [projected] at fails
        cases fails
        exact ((covers row List.mem_cons_self).knowsNames_project (checkColumns_of_validate valid)
          name projected).elim
      | ok values =>
        rw [projected] at fails
        simp only at fails
        split at fails
        · exact later _ _ _ fails
        · split at fails
          · exact later _ _ _ fails
          · exact later _ _ _ fails

end Plan

namespace Statement

variable {σ : Type} [RecordSource σ]

/-- A statement that is rejected for an unknown name fails for it, over any rows. One that is accepted
fails for an unknown name at once only if its table fails for it, or if the name is left open; and its
rows can be read to the end unless the table fails for the name. No name is left open if only columns
of the table are grouped by and only columns, places and literals are ordered by. -/
theorem run_fails_for_name (s : Statement) (source : σ) (options : QueryOptions) (name : String) :
    (Plan.make s (RecordSource.columns source) options = .error (.unknownColumn name) →
      ∃ after, s.run source options = .error ⟨.unknownColumn name, after⟩) ∧
    ∀ p, Plan.make s (RecordSource.columns source) options = .ok p →
      (∀ after, s.run source options = .error ⟨.unknownColumn name, after⟩ →
        ∃ rows stop, Scan.Gives p ⟨source, none⟩ rows stop ∧
          ((∃ states, RecordSource.Reads source states (some (.unknownColumn name))) ∨
            p.LeavesOpen rows name)) ∧
      (∀ cursor rows, s.run source options = .ok cursor →
        cursor.Delivers rows (some (.unknownColumn name)) →
        ∃ states, RecordSource.Reads source states (some (.unknownColumn name))) ∧
      (p.Settled → ∀ rows, ¬p.LeavesOpen rows name) := by
  refine ⟨fun invalid => ⟨_, run_of_make_eq_error invalid⟩, ?_⟩
  intro p made
  obtain ⟨rows, stop, gives⟩ := Scan.exists_gives p ⟨source, none⟩
  have valid := (Plan.make_eq_ok_iff.mp made).2
  have covers := gives.covers nofun
  refine ⟨?_, ?_, fun settled _ => settled.not_leavesOpen name⟩
  · intro after runs
    refine ⟨rows, stop, gives, ?_⟩
    by_cases streamed : (p.isStreamable && !options.scrollable) = true
    · rw [run_of_streamable made streamed] at runs
      cases runs
    · obtain ⟨_, whole⟩ := run_of_computed made (by simpa using streamed) gives
      rw [whole] at runs
      cases computed : p.computed rows stop with
      | ok found =>
        rw [computed] at runs
        cases runs
      | error e =>
        rw [computed] at runs
        cases runs
        rcases p.asksFor_computed valid covers stop name computed with fails | leaves
        · exact .inl (fails ▸ gives.reads_unknown fails)
        · exact .inr leaves
  · intro cursor given runs delivers
    by_cases streamed : (p.isStreamable && !options.scrollable) = true
    · rw [run_of_streamable made streamed] at runs
      cases runs
      have produced := delivers_of_start gives rfl
      have fails := Plan.unknown_of_produced valid covers _ _ _ (produced.unique delivers).2
      exact fails ▸ gives.reads_unknown fails
    · obtain ⟨_, whole⟩ := run_of_computed made (by simpa using streamed) gives
      rw [whole] at runs
      cases computed : p.computed rows stop with
      | error e =>
        rw [computed] at runs
        cases runs
      | ok found =>
        rw [computed] at runs
        cases runs
        cases (delivers.unique (Cursor.delivers_buffered rfl rfl (Nat.zero_le _))).2

/-- A column that a table does not have is found without rows; grouping by a column that it has leaves
no name open. -/
theorem run_fails_for_name_of_other_column :
    (∃ after, run { columns := [⟨.column none "m", none⟩] } (⟨["n"], [], []⟩ : MemoryTable) {} =
      .error ⟨.unknownColumn "m", after⟩) ∧
    ∀ rows, ¬(⟨{ columns := [⟨.countRows, none⟩], groupBy := [.column none "n"] }, ⟨["n"]⟩, {}⟩ :
      Plan).LeavesOpen rows "m" := by
  constructor
  · exact (run_fails_for_name _ _ _ "m").1 rfl
  · refine ((run_fails_for_name { columns := [⟨.countRows, none⟩], groupBy := [.column none "n"] }
      (⟨["n"], [], []⟩ : MemoryTable) {} "m").2 _ rfl).2.2 ⟨?_, nofun⟩
    rintro e mem name named
    cases List.mem_singleton.mp mem
    cases List.mem_singleton.mp named
    rfl

/-- SELECT n FROM t ORDER BY x + 1 -/
def orderedBySum : Statement where
  columns := [⟨.column none "n", none⟩]
  orderBy := [{ expression := .add (.column none "x") (.literal (.integer 1)) }]

/-- SELECT n + 1 AS m FROM t GROUP BY m -/
def groupedBySum : Statement where
  columns := [⟨.add (.column none "n") (.literal (.integer 1)), some "m"⟩]
  groupBy := [.column none "m"]

/-- Both statements are accepted. The unknown name in the first one is found only if there are rows; the
name in the second one is taken for unknown if its sum overflows. -/
theorem unknown_name_depends_on_rows :
    (∃ p, Plan.make orderedBySum ["n"] {} = .ok p) ∧
    (∃ cursor, orderedBySum.run (⟨["n"], [], []⟩ : MemoryTable) {} = .ok cursor) ∧
    (∃ table, orderedBySum.run (⟨["n"], [["1"]], []⟩ : MemoryTable) {} =
      .error ⟨.unknownColumn "x", table⟩) ∧
    (∃ p, Plan.make groupedBySum ["n"] {} = .ok p) ∧
    (∃ cursor, groupedBySum.run (⟨["n"], [["1"]], []⟩ : MemoryTable) {} = .ok cursor) ∧
    ∃ table, groupedBySum.run (⟨["n"], [["9223372036854775807"]], []⟩ : MemoryTable) {} =
      .error ⟨.unknownColumn "m", table⟩ :=
  ⟨⟨_, rfl⟩, ⟨_, rfl⟩, ⟨_, rfl⟩, ⟨_, rfl⟩, ⟨_, rfl⟩, ⟨_, rfl⟩⟩

end Statement

end PlainTables
