import PlainTables.Proofs.Query.Rows
import PlainTables.Proofs.Records.Outcome
import PlainTables.Query.Cursor

/-!
# Results that are computed as a whole

A cursor that is moved forward from row to row delivers these rows, and then it is at its end or an
error stops it.

The rows of a whole result are computed from the rows that a scan gives, and then they are arranged.
An error anywhere fails the result.
-/

namespace PlainTables.Cursor

variable {σ : Type} [RecordSource σ]

/-- Going forward with a cursor delivers these rows, and is stopped by the error, if there is one. -/
inductive Delivers : Cursor σ → List (List Value) → Option QueryError → Prop
  | ended {c} : c.next.1 = .ok false → Delivers c [] none
  | failed {c e} : c.next.1 = .error e → Delivers c [] (some e)
  | row {c row rows stop} : c.next.1 = .ok true → c.next.2.currentRow = some row →
      Delivers c.next.2 rows stop → Delivers c (row :: rows) stop

theorem Delivers.unique {c : Cursor σ} {rows rows' : List (List Value)}
    {stop stop' : Option QueryError} (delivers : Delivers c rows stop)
    (delivers' : Delivers c rows' stop') : rows = rows' ∧ stop = stop' := by
  induction delivers generalizing rows' stop' with
  | ended atEnd => cases delivers' <;> simp_all
  | failed atError => cases delivers' <;> simp_all
  | row atRow current _ ih =>
    cases delivers' with
    | ended atEnd => simp [atRow] at atEnd
    | failed atError => simp [atRow] at atError
    | row _ current' rest =>
      obtain ⟨rfl, rfl⟩ := ih rest
      rw [current] at current'
      cases current'
      exact ⟨rfl, rfl⟩

theorem fetchWithin_of_delivers {c : Cursor σ} {rows : List (List Value)} {stop : Option QueryError}
    (delivers : Delivers c rows stop) (fuel : Nat) (enough : rows.length < fuel) :
    (fetchWithin fuel c).1 = (rows, stop) := by
  induction delivers generalizing fuel with
  | @ended c atEnd =>
    obtain ⟨fuel, rfl⟩ := Nat.exists_eq_add_one_of_ne_zero (Nat.ne_zero_of_lt enough)
    have stepped : c.next = (.ok false, c.next.2) := Prod.ext atEnd rfl
    rw [fetchWithin, stepped]
  | @failed c e atError =>
    obtain ⟨fuel, rfl⟩ := Nat.exists_eq_add_one_of_ne_zero (Nat.ne_zero_of_lt enough)
    have stepped : c.next = (.error e, c.next.2) := Prod.ext atError rfl
    rw [fetchWithin, stepped]
  | @row c row rows stop atRow current _ ih =>
    obtain ⟨fuel, rfl⟩ := Nat.exists_eq_add_one_of_ne_zero (Nat.ne_zero_of_lt enough)
    have rest := ih fuel (Nat.lt_of_succ_lt_succ enough)
    have stepped : c.next = (.ok true, c.next.2) := Prod.ext atRow rfl
    rw [fetchWithin, stepped]
    simp only [rest, current]
    rfl

theorem delivers_buffered {c : Cursor σ} {rows : List (List Value)} {position : Nat} {source : σ}
    (isOpen : c.closed = false) (state : c.state = .buffered rows position source)
    (within : position ≤ rows.length) : Delivers c (rows.drop position) none := by
  induction hn : rows.length - position generalizing c position with
  | zero =>
    have atEnd : position = rows.length := by omega
    rw [atEnd, List.drop_length]
    refine .ended ?_
    simp [next, isOpen, state, atEnd]
  | succ n ih =>
    have onRow : position < rows.length := by omega
    have moved : c.next = (.ok true, { c with state := .buffered rows (position + 1) source }) := by
      simp [next, isOpen, state, within, Nat.succ_le_of_lt onRow]
    rw [List.drop_eq_getElem_cons onRow]
    refine .row (by rw [moved]) ?_ ?_
    · simp [moved, currentRow, isOpen, onRow]
    · rw [moved]
      exact ih isOpen rfl onRow (by omega)

end PlainTables.Cursor

namespace PlainTables

namespace Plan

theorem make_eq_map (s : Statement) (names : List String) (options : QueryOptions) :
    make s names options =
      (⟨s, ⟨names⟩, options⟩ : Plan).validate.map fun _ => ⟨s, ⟨names⟩, options⟩ := by
  unfold make
  cases checked : (⟨s, ⟨names⟩, options⟩ : Plan).validate with
  | error e => simp only [checked, Except.map]
  | ok _ => simp only [checked, Except.map]

theorem make_eq_ok_iff {s : Statement} {names : List String} {options : QueryOptions} {p : Plan} :
    make s names options = .ok p ↔ p = ⟨s, ⟨names⟩, options⟩ ∧ p.validate = .ok () := by
  unfold make
  cases checked : (⟨s, ⟨names⟩, options⟩ : Plan).validate with
  | error e =>
    simp only [checked, reduceCtorEq, false_iff]
    rintro ⟨rfl, passes⟩
    cases checked.symm.trans passes
  | ok _ =>
    simp only [checked, Except.ok.injEq]
    constructor
    · rintro rfl
      exact ⟨rfl, checked⟩
    · rintro ⟨rfl, -⟩
      rfl

theorem length_values {p : Plan} {f : OutputColumn → Except QueryError Value} {values : List Value}
    (computed : p.columns.mapM f = .ok values) : values.length = p.output.size :=
  (mapM_eq_ok_iff.mp computed).length_eq.symm.trans (List.length_map _).symm

variable {σ : Type} [RecordSource σ]

def keyed (p : Plan) (row : Row) : Except QueryError (List Value × Row) :=
  (p.groupKey row).map fun key => (key, row)

/-- The rows of the result for keyed rows, one for each group that passes HAVING. -/
def groupRows (p : Plan) (rows : List (List Value × Row)) : Except QueryError (List ResultRow) :=
  ((p.groups rows).mapM p.groupRow).map (·.filterMap id)

/-- The rows of the result for the rows that a scan gives before it is stopped. -/
def computed (p : Plan) (rows : List Row) (stop : Option QueryError) :
    Except QueryError (List ResultRow) :=
  if p.statement.isGrouped then ((rows.mapM p.keyed).bind (Scan.outcome stop)).bind p.groupRows
  else (rows.mapM p.plainRow).bind (Scan.outcome stop)

theorem resultRows_of_gives {p : Plan} {source : σ} {rows : List Row} {stop : Option QueryError}
    (gives : Scan.Gives p ⟨source, none⟩ rows stop) :
    (p.resultRows source).1 = p.computed rows stop := by
  unfold resultRows computed
  cases p.statement.isGrouped with
  | true =>
    have collected : (Scan.collect p (fun row => (p.groupKey row).map fun key => (key, row))
        ⟨source, none⟩).1 = (rows.mapM p.keyed).bind (Scan.outcome stop) :=
      Scan.collect_of_gives gives
    rw [if_pos rfl, if_pos rfl, ← collected]
    rcases Scan.collect p (fun row => (p.groupKey row).map fun key => (key, row))
      ⟨source, none⟩ with ⟨e | keyed, scan⟩
    · rfl
    · rfl
  | false =>
    rw [if_neg Bool.false_ne_true, if_neg Bool.false_ne_true]
    exact Scan.collect_of_gives gives

theorem result_eq_arrange {p : Plan} {source : σ} {rows : List Row} {stop : Option QueryError}
    (gives : Scan.Gives p ⟨source, none⟩ rows stop) :
    (p.result source).1 = (p.computed rows stop).map p.arrange := by
  rw [← resultRows_of_gives gives, result]
  rcases p.resultRows source with ⟨e | rows, source'⟩
  · rfl
  · rfl

end Plan

namespace Statement

variable {σ : Type} [RecordSource σ]

theorem statement_of_make {s : Statement} {names : List String} {options : QueryOptions} {p : Plan}
    (valid : Plan.make s names options = .ok p) : p.statement = s := by
  rw [(Plan.make_eq_ok_iff.mp valid).1]

theorem run_of_make_eq_error {s : Statement} {source : σ} {options : QueryOptions} {e : QueryError}
    (invalid : Plan.make s (RecordSource.columns source) options = .error e) :
    s.run source options = .error ⟨e, RecordSource.close source⟩ := by
  rw [run, invalid]

/-- A statement that is not streamed has its whole result in its cursor, or fails. -/
theorem run_of_computed {s : Statement} {source : σ} {options : QueryOptions} {p : Plan}
    {rows : List Row} {stop : Option QueryError}
    (valid : Plan.make s (RecordSource.columns source) options = .ok p)
    (whole : (p.isStreamable && !options.scrollable) = false)
    (gives : Scan.Gives p ⟨source, none⟩ rows stop) :
    ∃ after : σ, s.run source options =
      match p.computed rows stop with
      | .error e => .error ⟨e, after⟩
      | .ok found => .ok { columns := p.output, state := .buffered (p.arrange found) 0 after } := by
  have result := Plan.result_eq_arrange gives
  rw [run, valid]
  simp only [whole, Bool.false_eq_true, if_false]
  generalize p.result source = step at result
  obtain ⟨found, after⟩ := step
  refine ⟨RecordSource.close after, ?_⟩
  cases computed : p.computed rows stop with
  | error e => rw [computed] at result; cases result; rfl
  | ok rows => rw [computed] at result; cases result; rfl

end Statement

end PlainTables
