import PlainTables.Proofs.Evaluation.Scope
import PlainTables.Proofs.Query.Grouping

/-!
# DISTINCT and GROUP BY

To select distinct rows and to group by all that is selected is the same: each row that occurs is given
once, in the order of the first occurrences, and the same record of the table ends both with the same
error.
-/

namespace PlainTables

namespace Scan

variable {σ : Type} [RecordSource σ] {p q : Plan}

theorem covers_of_typedRow {types : List ColumnType} (size : types.length = p.source.size) {s : σ}
    {row : Row} (typed : typedRow p types s = .ok row) : p.Covers row := by
  obtain ⟨values, read, same⟩ := bind_eq_ok_iff.mp typed
  cases same
  have length := (mapM_eq_ok_iff.mp read).length_eq
  exact ⟨rfl, by rw [← length, List.length_zipIdx, size]⟩

theorem length_settleTypes (s : σ) : (settleTypes p s).length = p.source.size := by
  rw [settleTypes, List.length_map, List.length_range]

theorem Gives.covers {scan : Scan σ} {rows : List Row} {stop : Option QueryError}
    (gives : Gives p scan rows stop)
    (size : ∀ types ∈ scan.types, types.length = p.source.size) : ∀ row ∈ rows, p.Covers row := by
  have settled {scan : Scan σ} (size : ∀ types ∈ scan.types, types.length = p.source.size) :
      (scan.settled p).length = p.source.size := by
    unfold Scan.settled
    cases known : scan.types with
    | none => exact length_settleTypes _
    | some types => exact size types known
  have advanced {scan : Scan σ} (size : ∀ types ∈ scan.types, types.length = p.source.size) :
      ∀ types ∈ (scan.advanced p).types, types.length = p.source.size := by
    rintro types ⟨⟩
    exact settled size
  induction gives with
  | ended | failed | untyped | undecided => simp
  | dropped _ _ _ _ ih => exact ih (advanced size)
  | kept _ typed _ _ ih =>
    exact List.forall_mem_cons.mpr ⟨covers_of_typedRow (settled size) typed, ih (advanced size)⟩

/-- Plans that read records as the same rows and agree on WHERE leave a table behind in the same way. -/
theorem nextRowWithin_congr (types : ∀ s : σ, settleTypes q s = settleTypes p s)
    (typed : ∀ types (s : σ), typedRow q types s = typedRow p types s)
    (passes : ∀ row, q.passes row = p.passes row) (fuel : Nat) (scan : Scan σ) :
    nextRowWithin q fuel scan = nextRowWithin p fuel scan := by
  induction fuel generalizing scan with
  | zero => rfl
  | succ fuel ih => simp only [nextRowWithin, types, typed, passes, ih]

/-- How far a table is read depends on the rows that something is made of, and not on what is made. -/
theorem source_collectWithin {β γ : Type} {f : Row → Except QueryError β}
    {g : Row → Except QueryError γ} {scan : Scan σ} {rows : List Row} {stop : Option QueryError}
    (gives : Gives p scan rows stop)
    (next : ∀ fuel (scan : Scan σ), nextRowWithin q fuel scan = nextRowWithin p fuel scan)
    (same : ∀ row ∈ rows, (g row).isOk = (f row).isOk) (fuel : Nat)
    (enough : RecordSource.remaining scan.source < fuel) :
    (collectWithin q g fuel scan).2 = (collectWithin p f fuel scan).2 := by
  have next (scan : Scan σ) : scan.nextRow q = scan.nextRow p := next _ scan
  induction rows generalizing scan fuel with
  | nil =>
    obtain ⟨fuel, rfl⟩ := Nat.exists_eq_add_one_of_ne_zero (Nat.ne_zero_of_lt enough)
    have last := nextRow_of_gives_nil gives
    rw [collectWithin, collectWithin, next]
    generalize scan.nextRow p = step at last
    obtain ⟨first, later⟩ := step
    cases stop <;> cases last <;> rfl
  | cons row rows ih =>
    obtain ⟨fuel, rfl⟩ := Nat.exists_eq_add_one_of_ne_zero (Nat.ne_zero_of_lt enough)
    obtain ⟨later, step, rest, fewer⟩ := nextRow_of_gives_cons gives
    obtain ⟨first, others⟩ := List.forall_mem_cons.mp same
    have tail := ih rest others fuel (by omega)
    rw [collectWithin, collectWithin, next, step]
    cases madeF : f row with
    | error e =>
      rw [madeF] at first
      cases madeG : g row with
      | error e' => simp only [madeF, madeG]
      | ok c => rw [madeG] at first; cases first
    | ok b =>
      rw [madeF] at first
      cases madeG : g row with
      | error e' => rw [madeG] at first; cases first
      | ok c =>
        simp only [madeF, madeG]
        generalize collectWithin q g fuel later = tailG at tail
        generalize collectWithin p f fuel later = tailF at tail
        obtain ⟨_ | _, _⟩ := tailG <;> obtain ⟨_ | _, _⟩ := tailF <;> exact tail

end Scan

theorem mapM_zip {ε α β : Type} (f : α → Except ε β) (items : List α) :
    items.mapM (fun a => (f a).map fun b => (b, a)) = (items.mapM f).map (·.zip items) := by
  induction items with
  | nil => rfl
  | cons a items ih =>
    rw [List.mapM_cons, List.mapM_cons, ih]
    cases f a with
    | error e => rfl
    | ok b => cases items.mapM f <;> rfl

/-- The statement lists expressions of the rows of its table, and asks neither for distinct rows nor for
groups nor for an order. -/
structure Statement.ListsPlainly (s : Statement) : Prop where
  nonempty : s.columns ≠ []
  plain : ∀ c ∈ s.columns, c.expression ≠ .wildcard ∧ c.expression.containsAggregate = false
  every : s.distinct = false
  noKeys : s.groupBy = []
  noHaving : s.having = none
  unordered : s.orderBy = []

namespace Plan

def distinctly (p : Plan) : Plan :=
  { p with statement := { p.statement with distinct := true } }

def groupedByAll (p : Plan) : Plan :=
  { p with
    statement := { p.statement with groupBy := p.statement.columns.map OutputColumn.expression } }

variable {p : Plan}

theorem columns_of_plain (plain : ∀ c ∈ p.statement.columns, c.expression ≠ .wildcard) :
    p.columns = p.statement.columns := by
  have single (c : OutputColumn) (mem : c ∈ p.statement.columns) : expand p.source c = [c] := by
    unfold expand
    split
    · next wild => exact absurd wild (plain c mem)
    · rfl
  rw [columns, List.flatMap_congr single, List.flatMap_singleton']

section

variable {σ : Type} [RecordSource σ]

theorem source_of_result (p : Plan) (source : σ) :
    (p.result source).2 = (p.resultRows source).2 := by
  unfold result
  rcases p.resultRows source with ⟨_ | _, _⟩ <;> rfl

theorem source_of_plain_result (ungrouped : p.statement.isGrouped = false) (source : σ) :
    (p.result source).2 = (Scan.collect p p.plainRow ⟨source, none⟩).2.source := by
  rw [source_of_result, resultRows, ungrouped, if_neg Bool.false_ne_true]

theorem source_of_grouped_result (grouped : p.statement.isGrouped = true) (source : σ) :
    (p.result source).2 = (Scan.collect p p.keyed ⟨source, none⟩).2.source := by
  have collected : Scan.collect p (fun row => (p.groupKey row).map fun key => (key, row))
      ⟨source, none⟩ = Scan.collect p p.keyed ⟨source, none⟩ := rfl
  rw [source_of_result, resultRows, if_pos grouped, collected]
  rcases Scan.collect p p.keyed ⟨source, none⟩ with ⟨_ | _, _⟩ <;> rfl

end

section

variable (lists : p.statement.ListsPlainly)

include lists

theorem columns_of_lists : p.columns = p.statement.columns :=
  columns_of_plain fun c mem => (lists.plain c mem).1

theorem isGrouped_distinctly : p.distinctly.statement.isGrouped = false := by
  have noAggregate : p.statement.columns.any (·.expression.containsAggregate) = false :=
    List.any_eq_false.mpr fun c mem => by simp [(lists.plain c mem).2]
  simp [distinctly, Statement.isGrouped, lists.noKeys, lists.noHaving, noAggregate]

theorem groupBy_groupedByAll : p.groupedByAll.statement.groupBy ≠ [] := by
  simp [groupedByAll, lists.nonempty]

theorem isGrouped_groupedByAll : p.groupedByAll.statement.isGrouped = true := by
  simp [Statement.isGrouped, groupBy_groupedByAll lists]

theorem validate_distinctly : p.distinctly.validate = p.checkColumns := by
  have keys : p.distinctly.checkGroupBy = .ok () := by
    have none : p.distinctly.statement.groupBy = [] := lists.noKeys
    simp [checkGroupBy, none]
  have aggregates : p.distinctly.checkAggregates = .ok () := by
    simp [checkAggregates, isGrouped_distinctly lists]
  have order : p.distinctly.statement.orderBy = [] := lists.unordered
  have columns : p.distinctly.checkColumns = p.checkColumns := rfl
  rw [validate, keys, aggregates, order, columns]
  cases p.checkColumns <;> rfl

theorem validate_groupedByAll : p.groupedByAll.validate = p.checkColumns := by
  have columns : p.groupedByAll.checkColumns = p.checkColumns := rfl
  have aggregates : p.groupedByAll.checkAggregates = .ok () := by
    simp [checkAggregates, groupBy_groupedByAll lists]
  have order : p.groupedByAll.statement.orderBy = [] := lists.unordered
  rw [validate, columns, aggregates, order]
  cases checked : p.checkColumns with
  | error e => rfl
  | ok _ =>
    have keys : p.groupedByAll.checkGroupBy = .ok () := by
      have known : ∀ name ∈ p.groupedByAll.statement.groupBy.flatMap (·.columnNames true),
          ¬ (!p.groupedByAll.isKnown name && !p.groupedByAll.isAlias name) = true := by
        intro name mem
        obtain ⟨e, selected, named⟩ := List.mem_flatMap.mp mem
        obtain ⟨c, list, rfl⟩ := List.mem_map.mp selected
        rw [← columns_of_lists lists] at list
        have known : p.groupedByAll.isKnown name = true := known_of_checkColumns checked list named
        simp [known]
      simp only [checkGroupBy]
      rw [List.find?_eq_none.mpr known]
    rw [keys]
    rfl

variable (valid : p.checkColumns = .ok ()) {row : Row} (covers : p.Covers row)

include valid covers

theorem groupKey_groupedByAll : p.groupedByAll.groupKey row = p.project row := by
  have columns : p.groupedByAll.columns = p.columns := rfl
  unfold groupKey project
  rw [columns, columns_of_lists lists, groupedByAll, List.mapM_map, ← columns_of_lists lists]
  refine mapM_congr fun c mem => covers.evaluate_ofAliasedRow ?_ fun name named =>
    known_of_checkColumns valid mem named
  rw [columns_of_lists lists] at mem
  exact (lists.plain c mem).2

theorem groupValues_groupedByAll (rows : List Row) :
    p.groupedByAll.groupValues (row :: rows) = p.project row := by
  have columns : p.groupedByAll.columns = p.columns := rfl
  unfold groupValues project
  rw [columns]
  refine mapM_congr fun c mem => covers.evaluate_ofGroup rows [] ?_ fun name named =>
    known_of_checkColumns valid mem named
  rw [columns_of_lists lists] at mem
  exact (lists.plain c mem).2

omit covers in
theorem mapM_groupValues_groupedByAll {rows : List Row} (covers : ∀ row ∈ rows, p.Covers row)
    {key : Row → List Value} (keys : ∀ row ∈ rows, p.groupedByAll.groupKey row = .ok (key row)) :
    (p.groupedByAll.groups (rows.map fun row => (key row, row))).mapM
      (fun g => p.groupedByAll.groupValues g.rows) = .ok (rows.map key).eraseDups := by
  rw [groups_eq keys, if_neg (groupBy_groupedByAll lists), mapM_eq_ok_iff,
    List.forall₂_map_left_iff, List.forall₂_same]
  intro k mem
  obtain ⟨row, inside, own⟩ := List.mem_map.mp (List.mem_eraseDups.mp mem)
  cases ofKey : rows.filter fun row => key row == k with
  | nil => exact absurd (beq_iff_eq.mpr own) (List.filter_eq_nil_iff.mp ofKey row inside)
  | cons first rest =>
    have mem : first ∈ rows.filter fun row => key row == k := ofKey ▸ List.mem_cons_self
    obtain ⟨known, same⟩ := List.mem_filter.mp mem
    rw [groupValues_groupedByAll lists valid (covers first known),
      ← groupKey_groupedByAll lists valid (covers first known), keys first known, eq_of_beq same]

omit covers in
/-- Grouping by all that is selected makes one row of each key, and the key is the row. -/
theorem computed_groupedByAll {rows : List Row} (covers : ∀ row ∈ rows, p.Covers row)
    (stop : Option QueryError) :
    p.groupedByAll.computed rows stop =
      ((rows.mapM p.project).bind (Scan.outcome stop)).map
        (·.eraseDups.map fun values => ⟨values, []⟩) := by
  have groupKey : rows.mapM p.groupedByAll.groupKey = rows.mapM p.project :=
    mapM_congr fun row mem => groupKey_groupedByAll lists valid (covers row mem)
  have keyed : rows.mapM p.groupedByAll.keyed = (rows.mapM p.project).map (·.zip rows) := by
    rw [← groupKey]
    exact mapM_zip p.groupedByAll.groupKey rows
  rw [computed, if_pos (isGrouped_groupedByAll lists)]
  cases projects : rows.mapM p.project with
  | error e =>
    rw [keyed, projects]
    rfl
  | ok projected =>
    cases stop with
    | some e =>
      rw [keyed, projects]
      rfl
    | none =>
      rw [projects] at keyed groupKey
      have keyed : rows.mapM p.groupedByAll.keyed = .ok (projected.zip rows) := keyed
      obtain ⟨key, keys, pairs⟩ := exists_keys keyed
      have each : rows.mapM p.groupedByAll.groupKey = .ok (rows.map key) :=
        mapM_eq_ok_iff.mpr (List.forall₂_map_right_iff.mpr (List.forall₂_same.mpr keys))
      obtain rfl := Except.ok.inj (groupKey.symm.trans each)
      rw [keyed, pairs]
      change p.groupedByAll.groupRows _ = _
      rw [groupRows_eq (p := p.groupedByAll) lists.noHaving lists.unordered,
        mapM_groupValues_groupedByAll lists valid covers keys]
      rfl

omit covers in
theorem arranged_groupedByAll {rows : List Row} (covers : ∀ row ∈ rows, p.Covers row)
    (stop : Option QueryError) :
    (p.groupedByAll.computed rows stop).map p.groupedByAll.arrange =
      (p.distinctly.computed rows stop).map p.distinctly.arrange := by
  rw [computed_groupedByAll lists valid covers, computed_of_plain (isGrouped_distinctly lists)
    (p := p.distinctly) lists.unordered]
  have project : p.distinctly.project = p.project := rfl
  rw [project]
  cases (rows.mapM p.project).bind (Scan.outcome stop) with
  | error e => rfl
  | ok projected =>
    simp only [Except.map, arrange_of_unordered (p := p.groupedByAll) lists.unordered,
      arrange_of_unordered (p := p.distinctly) lists.unordered, map_values]
    have every : p.groupedByAll.statement.distinct = false := lists.every
    rw [kept, kept, every, if_neg Bool.false_ne_true]
    rfl

variable {σ : Type} [RecordSource σ]

omit covers in
/-- Both plans make one result of a table, and leave the table behind in one state. -/
theorem result_groupedByAll (source : σ) :
    p.groupedByAll.result source = p.distinctly.result source := by
  obtain ⟨rows, stop, gives⟩ := Scan.exists_gives p.distinctly ⟨source, none⟩
  have gives' : Scan.Gives p.groupedByAll ⟨source, none⟩ rows stop :=
    gives.transfer (p := p.distinctly) (q := p.groupedByAll) (fun _ => rfl) (fun _ _ => rfl)
      fun _ => rfl
  have covers : ∀ row ∈ rows, p.Covers row := fun row mem =>
    have own : p.distinctly.Covers row := gives.covers (by simp) row mem
    ⟨own.columns, own.full⟩
  refine Prod.ext ?_ ?_
  · rw [result_eq_arrange gives, result_eq_arrange gives', arranged_groupedByAll lists valid covers]
  · rw [source_of_grouped_result (isGrouped_groupedByAll lists),
      source_of_plain_result (isGrouped_distinctly lists), Scan.collect, Scan.collect]
    refine congrArg Scan.source (Scan.source_collectWithin gives ?_ ?_ _ (Nat.lt_succ_self _))
    · exact Scan.nextRowWithin_congr (fun _ => rfl) (fun _ _ => rfl) fun _ => rfl
    · intro row mem
      have project : p.distinctly.project = p.project := rfl
      rw [plainRow_eq (p := p.distinctly) lists.unordered, keyed, project,
        groupKey_groupedByAll lists valid (covers row mem)]
      cases p.project row <;> rfl

end

end Plan

namespace Statement

variable {σ : Type} [RecordSource σ]

/-- The distinct rows of a select list are the rows that it has when it is grouped by all that is in it:
both statements have the same outcome on every table, rows and errors alike. -/
theorem distinct_run_eq_grouped_run (s : Statement) (source : σ) (options : QueryOptions)
    (lists : s.ListsPlainly) (whole : options.scrollable = true) :
    run { s with distinct := true } source options =
      run { s with groupBy := s.columns.map OutputColumn.expression } source options := by
  let p : Plan := ⟨s, ⟨RecordSource.columns source⟩, options⟩
  have distinct : Plan.make { s with distinct := true } (RecordSource.columns source) options =
      p.checkColumns.map fun _ => p.distinctly := by
    rw [Plan.make_eq_map, ← Plan.validate_distinctly (p := p) lists]
    rfl
  have grouped : Plan.make { s with groupBy := s.columns.map OutputColumn.expression }
      (RecordSource.columns source) options = p.checkColumns.map fun _ => p.groupedByAll := by
    rw [Plan.make_eq_map, ← Plan.validate_groupedByAll (p := p) lists]
    rfl
  rw [run, run, distinct, grouped]
  cases checked : p.checkColumns with
  | error e => rfl
  | ok _ =>
    have output : p.groupedByAll.output = p.distinctly.output := rfl
    simp only [Except.map, whole, Bool.not_true, Bool.and_false, Bool.false_eq_true, if_false, output,
      Plan.result_groupedByAll (p := p) lists checked]

/-- The cities of a table with their years, each pair once, by GROUP BY. -/
theorem distinct_run_eq_grouped_run_of_cities :
    (run { columns := [⟨.column none "city", some "place"⟩, ⟨.column none "year", none⟩]
           groupBy := [.column none "city", .column none "year"]
           filter := some (.not (.isNull (.column none "place")))
           limit := some 2 }
        (⟨["city", "year"], [["Oslo", "7"], ["Bergen", ""], ["Oslo", "7"], ["Oslo", "8"]], []⟩ :
          MemoryTable) { scrollable := true }).map (·.fetch.1) =
      .ok ([[.text "Oslo", .integer 7], [.text "Bergen", .null]], none) := by
  have same := distinct_run_eq_grouped_run
    { columns := [⟨.column none "city", some "place"⟩, ⟨.column none "year", none⟩]
      filter := some (.not (.isNull (.column none "place")))
      limit := some 2 }
    (⟨["city", "year"], [["Oslo", "7"], ["Bergen", ""], ["Oslo", "7"], ["Oslo", "8"]], []⟩ :
      MemoryTable) { scrollable := true }
    { nonempty := by simp
      plain := by simp [Expression.containsAggregate]
      every := rfl
      noKeys := rfl
      noHaving := rfl
      unordered := rfl } rfl
  exact (congrArg (Except.map (·.fetch.1)) same.symm).trans rfl

end Statement

end PlainTables
