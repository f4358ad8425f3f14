import Mathlib.Data.List.Forall2
import PlainTables.Proofs.Query.Streaming
import PlainTables.Proofs.Records.ColumnNames

/-!
# All columns of a table

A statement that selects all columns asks for them by their names. If these are distinct, every record
is delivered as it is, each field in the type of its column.
-/

namespace PlainTables

theorem Columns.position?_of_distinct {names : List String} (distinct : Columns.Distinct names)
    {i : Nat} (inside : i < names.length) : (⟨names⟩ : Columns).position? names[i] = some i := by
  refine List.findIdx?_eq_some_iff_getElem.mpr ⟨inside, by simp [same], fun j before => ?_⟩
  have apart := List.pairwise_iff_getElem.mp distinct j i (Nat.lt_trans before inside) inside before
  rw [apart]
  exact Bool.false_ne_true

/-- What can be made of records up to the first error, which is one of them or stops them. -/
def Outcome.attempt {α β : Type} (f : α → Except QueryError β) (stop : Option QueryError) :
    List α → Outcome β
  | [] => ([], stop)
  | a :: rest =>
    match f a with
    | .error e => ([], some e)
    | .ok b => (b :: (attempt f stop rest).1, (attempt f stop rest).2)

namespace Scan

variable {σ : Type} [RecordSource σ]

def typedFields (formats : Formats) (types : List ColumnType) (s : σ) :
    Except QueryError (List Value) :=
  types.zipIdx.mapM fun (type, i) => typedValue formats type (RecordSource.field s i)

/-- The records of a table with each field in the type of its column, up to the first error. The first
record settles the types. -/
def typedRecords (p : Plan) (stop : Option QueryError) (records : List σ) : Outcome (List Value) :=
  match records with
  | [] => ([], stop)
  | first :: _ => Outcome.attempt (typedFields p.options.formats (settleTypes p first)) stop records

theorem typedRow_eq (p : Plan) (types : List ColumnType) (s : σ) :
    typedRow p types s = (typedFields p.options.formats types s).map fun values => ⟨p.source, values⟩ := by
  unfold typedRow typedFields
  cases types.zipIdx.mapM fun (type, i) =>
    typedValue p.options.formats type (RecordSource.field s i) <;> rfl

theorem length_typedFields {formats : Formats} {types : List ColumnType} {s : σ}
    {values : List Value} (typed : typedFields formats types s = .ok values) :
    values.length = types.length := by
  have each := (mapM_eq_ok_iff.mp typed).length_eq
  rw [← each, List.length_zipIdx]

/-- Without WHERE a scan gives all records as rows, up to the first whose fields do not have their
types. -/
theorem gives_attempt {p : Plan} (unfiltered : p.statement.filter = none) {scan : Scan σ} {s : σ}
    {records : List σ} {stop : Option QueryError} (source : scan.source = s)
    (reads : RecordSource.Reads s records stop) :
    ∃ rows ending, Gives p scan rows ending ∧
      Outcome.attempt (typedFields p.options.formats (scan.settled p)) stop records =
        (rows.map Row.values, ending) ∧
      ∀ row ∈ rows, row.columns = p.source ∧ row.values.length = (scan.settled p).length := by
  induction reads generalizing scan with
  | ended atEnd =>
    subst source
    exact ⟨[], none, .ended atEnd, rfl, by simp⟩
  | failed atError =>
    subst source
    exact ⟨[], _, .failed atError, rfl, by simp⟩
  | @record s records stop atRecord _ ih =>
    subst source
    obtain ⟨rows, ending, gives, attempted, shape⟩ := ih (rfl : (scan.advanced p).source = _)
    have sameTypes : (scan.advanced p).settled p = scan.settled p := rfl
    rw [sameTypes] at attempted shape
    have upcoming : scan.upcoming p = (typedFields p.options.formats (scan.settled p)
        (RecordSource.next scan.source).2).map fun values => ⟨p.source, values⟩ := typedRow_eq ..
    cases typed : typedFields p.options.formats (scan.settled p) (RecordSource.next scan.source).2 with
    | error e =>
      rw [typed] at upcoming
      refine ⟨[], some e, .untyped atRecord upcoming, ?_, by simp⟩
      simp only [Outcome.attempt, typed]
      rfl
    | ok values =>
      rw [typed] at upcoming
      have passes : p.passes ⟨p.source, values⟩ = .ok true := by
        rw [Plan.passes, unfiltered]
      refine ⟨_ :: rows, ending, .kept atRecord upcoming passes gives, ?_, ?_⟩
      · simp only [Outcome.attempt, typed, attempted]
        rfl
      · exact List.forall_mem_cons.mpr ⟨⟨rfl, length_typedFields typed⟩, shape⟩

theorem gives_typedRecords {p : Plan} (unfiltered : p.statement.filter = none) {source : σ}
    {records : List σ} {stop : Option QueryError} (reads : RecordSource.Reads source records stop) :
    ∃ rows ending, Gives p ⟨source, none⟩ rows ending ∧
      typedRecords p stop records = (rows.map Row.values, ending) ∧
      ∀ row ∈ rows, row.columns = p.source ∧ row.values.length = p.source.size := by
  obtain ⟨rows, ending, gives, attempted, shape⟩ :=
    gives_attempt unfiltered (rfl : (⟨source, none⟩ : Scan σ).source = source) reads
  have width : ((⟨source, none⟩ : Scan σ).settled p).length = p.source.size := by
    simp [settled, settleTypes]
  rw [width] at shape
  refine ⟨rows, ending, gives, ?_, shape⟩
  rw [← attempted]
  cases reads with
  | ended => rfl
  | failed => rfl
  | record => rfl

end Scan

namespace Statement

def selectAll (table : NamedTable) : Statement where
  columns := [⟨.wildcard, none⟩]
  from? := some table

end Statement

namespace Plan

variable {names : List String} {table : NamedTable} {options : QueryOptions}

def ofAll (table : NamedTable) (names : List String) (options : QueryOptions) : Plan :=
  ⟨.selectAll table, ⟨names⟩, options⟩

theorem columns_ofAll : (ofAll table names options).columns =
    names.map fun name => ⟨.column none name, none⟩ := by
  simp [columns, ofAll, Statement.selectAll, expand]

theorem make_selectAll (table : NamedTable) (names : List String) (options : QueryOptions) :
    make (.selectAll table) names options = .ok (ofAll table names options) := by
  refine make_eq_ok_iff.mpr ⟨rfl, ?_⟩
  have known : ∀ name ∈ names, (ofAll table names options).isKnown name = true := by
    intro name mem
    simp only [isKnown, ofAll, Columns.position?, List.findIdx?_isSome, List.any_eq_true]
    exact ⟨name, mem, by simp [Columns.same]⟩
  have checked : (ofAll table names options).checkColumns = .ok () := by
    have none : names.find? (!(ofAll table names options).isKnown ·) = none := by
      rw [List.find?_eq_none]
      intro name mem
      simp [known name mem]
    simp [checkColumns, columns_ofAll, List.flatMap_map, Expression.columnNames, none]
  rw [validate, checked]
  rfl

theorem project_ofAll (distinct : Columns.Distinct names) {row : Row}
    (columns : row.columns = ⟨names⟩) (width : row.values.length = names.length) :
    (ofAll table names options).project row = .ok row.values := by
  rw [project, columns_ofAll, mapM_eq_ok_iff, List.forall₂_map_left_iff, List.forall₂_iff_get]
  refine ⟨width.symm, fun i inNames inValues => ?_⟩
  have place := Columns.position?_of_distinct distinct inNames
  have found : row.get? names[i] = some row.values[i] := by
    rw [Row.get?, columns, place]
    simp
  simp [Expression.evaluate, Scope.ofRow, found]

theorem output_ofAll : (ofAll table names options).output = ⟨names⟩ := by
  rw [output, columns_ofAll, List.map_map]
  exact congrArg Columns.mk (List.map_id _)

/-- Rows that are selected as they are, without DISTINCT, OFFSET and LIMIT, are all produced. -/
theorem produced_of_values {p : Plan} {rows : List Row}
    (project : ∀ row ∈ rows, p.project row = .ok row.values) (stop : Option QueryError) :
    p.produced stop none 0 none rows = (rows.map Row.values, stop) := by
  induction rows with
  | nil => rw [produced_nil _ _ (by simp), List.map_nil]
  | cons row rows ih =>
    obtain ⟨first, rest⟩ := List.forall_mem_cons.mp project
    rw [produced_cons _ _ (by simp), first]
    simp [ih rest]

end Plan

namespace Statement

variable {σ : Type} [RecordSource σ]

/-- Selecting all columns of a table whose columns are distinct delivers its typed records. A result that
is kept as a whole fails with the error that stops them. -/
theorem run_selectAll (table : NamedTable) {source : σ} (options : QueryOptions)
    (distinct : Columns.Distinct (RecordSource.columns source)) {records : List σ}
    {stop : Option QueryError} (reads : RecordSource.Reads source records stop)
    {rows : List (List Value)} {ending : Option QueryError}
    (typed : Scan.typedRecords (.ofAll table (RecordSource.columns source) options) stop records =
      (rows, ending)) :
    (∃ cursor, (selectAll table).run source { options with scrollable := false } = .ok cursor ∧
      cursor.columns.names = RecordSource.columns source ∧ cursor.Delivers rows ending) ∧
    match ending with
    | none => ∃ cursor, (selectAll table).run source { options with scrollable := true } =
        .ok cursor ∧ cursor.columns.names = RecordSource.columns source ∧ cursor.Delivers rows none
    | some e => ∃ failed, (selectAll table).run source { options with scrollable := true } =
        .error failed ∧ failed.error = e := by
  have valid := Plan.make_selectAll table (RecordSource.columns source) options
  obtain ⟨found, ending', gives, typed', shape⟩ := Scan.gives_typedRecords
    (p := .ofAll table (RecordSource.columns source) options) rfl reads
  cases typed.symm.trans typed'
  have project : ∀ row ∈ found,
      (Plan.ofAll table (RecordSource.columns source) options).project row = .ok row.values :=
    fun row mem => Plan.project_ofAll distinct (shape row mem).1 (shape row mem).2
  have names : (Plan.ofAll table (RecordSource.columns source) options).output.names =
      RecordSource.columns source := by rw [Plan.output_ofAll]
  refine ⟨⟨_, run_streamed valid rfl, names, ?_⟩, ?_⟩
  · have produces := Plan.produced_of_values
      (p := (Plan.ofAll table (RecordSource.columns source) options).scrolled false) project ending
    exact Cursor.delivers_produced rfl rfl rfl (Plan.gives_scrolled gives) produces
  · obtain ⟨after, whole⟩ := run_whole valid rfl rfl gives
    have projects : found.mapM (Plan.ofAll table (RecordSource.columns source) options).project =
        .ok (found.map Row.values) := by
      rw [mapM_eq_ok_iff, List.forall₂_map_right_iff, List.forall₂_same]
      exact project
    rw [projects] at whole
    cases ending with
    | some e => exact ⟨_, whole, rfl⟩
    | none => exact ⟨_, whole, names, Cursor.delivers_buffered rfl rfl (Nat.zero_le _)⟩

end Statement

end PlainTables
