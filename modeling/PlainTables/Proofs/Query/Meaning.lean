import PlainTables.Proofs.Query.Rows
import PlainTables.Query.Result

/-!
# The meaning of a query

What a statement without groups and order asks for, said of the table as a whole: its records as typed
rows, those that pass WHERE, what is selected of each, once each if they have to differ, and of these
the ones between OFFSET and LIMIT.
-/

namespace PlainTables.Plan

variable {σ : Type} [RecordSource σ]

/-- The records of a table as typed rows. The first one settles the types. -/
def typedRows (p : Plan) (records : List σ) : Except QueryError (List Row) :=
  match records with
  | [] => .ok []
  | first :: _ => records.mapM (Scan.typedRow p (Scan.settleTypes p first))

def selects (p : Plan) (row : Row) : Bool :=
  (p.passes row).toOption = some true

def window {α : Type} (offset : Nat) (limit : Option Nat) (rows : List α) : List α :=
  match limit with
  | some n => (rows.drop offset).take n
  | none => rows.drop offset

/-- The rows of the result among those that have been computed: each at its first place if they have to
differ, and of these the ones between OFFSET and LIMIT. -/
def kept (p : Plan) (rows : List (List Value)) : List (List Value) :=
  window p.offset p.limit (if p.statement.distinct then rows.eraseDups else rows)

/-- The typed rows of a table that pass WHERE, in the order of its records. -/
def PassingRows (p : Plan) (source : σ) (rows : List Row) : Prop :=
  ∃ records typed, RecordSource.Reads source records none ∧ p.typedRows records = .ok typed ∧
    (∀ row ∈ typed, ∃ holds, p.passes row = .ok holds) ∧ rows = typed.filter p.selects

/-- The rows are what the statement asks for of the whole table. -/
def Denotes (p : Plan) (source : σ) (rows : List (List Value)) : Prop :=
  ∃ records typed projected,
    RecordSource.Reads source records none ∧
    p.typedRows records = .ok typed ∧
    (∀ row ∈ typed, ∃ holds, p.passes row = .ok holds) ∧
    (typed.filter p.selects).mapM p.project = .ok projected ∧
    rows = p.kept projected

theorem Denotes.unique {p : Plan} {source : σ} {rows rows' : List (List Value)}
    (denotes : p.Denotes source rows) (denotes' : p.Denotes source rows') : rows = rows' := by
  obtain ⟨records, typed, projected, reads, types, -, projects, rfl⟩ := denotes
  obtain ⟨records', typed', projected', reads', types', -, projects', rfl⟩ := denotes'
  obtain ⟨rfl, -⟩ := reads.unique reads'
  cases types.symm.trans types'
  cases projects.symm.trans projects'
  rfl

end PlainTables.Plan

namespace PlainTables.Scan

variable {σ : Type} [RecordSource σ]

theorem typedRows_cons {p : Plan} {scan : Scan σ} {records : List σ} {row : Row} {rows : List Row}
    (typed : scan.upcoming p = .ok row)
    (rest : records.mapM (typedRow p ((scan.advanced p).settled p)) = .ok rows) :
    ((RecordSource.next scan.source).2 :: records).mapM (typedRow p (scan.settled p)) =
      .ok (row :: rows) := by
  have first : typedRow p (scan.settled p) (RecordSource.next scan.source).2 = .ok row := typed
  have others : records.mapM (typedRow p (scan.settled p)) = .ok rows := rest
  rw [List.mapM_cons, first]
  simp only [others]
  rfl

/-- The rows of a scan that comes to the end are the typed records that pass WHERE. -/
theorem Gives.eq_filter {p : Plan} {scan : Scan σ} {rows : List Row} {stop : Option QueryError}
    (gives : Gives p scan rows stop) (atEnd : stop = none) :
    ∃ records typed, RecordSource.Reads scan.source records none ∧
      records.mapM (typedRow p (scan.settled p)) = .ok typed ∧
      (∀ row ∈ typed, ∃ holds, p.passes row = .ok holds) ∧ rows = typed.filter p.selects := by
  induction gives with
  | ended result => exact ⟨[], [], .ended result, rfl, by simp, rfl⟩
  | failed | untyped | undecided => cases atEnd
  | @dropped scan row rows stop result typed passed _ ih =>
    obtain ⟨records, typedRest, reads, mapped, decided, rfl⟩ := ih atEnd
    refine ⟨_, row :: typedRest, .record result reads, typedRows_cons typed mapped, ?_, ?_⟩
    · exact List.forall_mem_cons.mpr ⟨⟨false, passed⟩, decided⟩
    · simp [Plan.selects, passed, Except.toOption]
  | @kept scan row rows stop result typed passed _ ih =>
    obtain ⟨records, typedRest, reads, mapped, decided, rfl⟩ := ih atEnd
    refine ⟨_, row :: typedRest, .record result reads, typedRows_cons typed mapped, ?_, ?_⟩
    · exact List.forall_mem_cons.mpr ⟨⟨true, passed⟩, decided⟩
    · simp [Plan.selects, passed, Except.toOption]

/-- A scan over records that can all be typed and decided gives those that pass WHERE. -/
theorem gives_of_reads {p : Plan} {scan : Scan σ} {records : List σ} {stop : Option QueryError}
    {typed : List Row} (reads : RecordSource.Reads scan.source records stop)
    (types : records.mapM (typedRow p (scan.settled p)) = .ok typed)
    (decided : ∀ row ∈ typed, ∃ holds, p.passes row = .ok holds) :
    Gives p scan (typed.filter p.selects) stop := by
  generalize start : scan.source = source at reads
  induction reads generalizing scan typed with
  | ended result =>
    cases types
    exact .ended (start ▸ result)
  | failed result =>
    cases types
    exact .failed (start ▸ result)
  | record result _ ih =>
    subst start
    obtain ⟨row, rows, first, rest, rfl⟩ := List.forall₂_cons_left_iff.mp (mapM_eq_ok_iff.mp types)
    obtain ⟨⟨holds, passes⟩, decided⟩ := List.forall_mem_cons.mp decided
    have later : Gives p (scan.advanced p) (rows.filter p.selects) _ :=
      ih (mapM_eq_ok_iff.mpr rest) decided rfl
    cases holds with
    | true =>
      rw [List.filter_cons_of_pos (by simp [Plan.selects, passes, Except.toOption])]
      exact .kept result first passes later
    | false =>
      rw [List.filter_cons_of_neg (by simp [Plan.selects, passes, Except.toOption])]
      exact .dropped result first passes later

end PlainTables.Scan

namespace PlainTables.Plan

variable {σ : Type} [RecordSource σ]

theorem PassingRows.gives {p : Plan} {source : σ} {rows : List Row} (passing : p.PassingRows source rows) :
    Scan.Gives p ⟨source, none⟩ rows none := by
  obtain ⟨records, typed, reads, types, decided, rfl⟩ := passing
  refine Scan.gives_of_reads reads ?_ decided
  cases reads with
  | ended => exact types
  | record => exact types

theorem passingRows_of_gives {p : Plan} {source : σ} {rows : List Row}
    (gives : Scan.Gives p ⟨source, none⟩ rows none) : p.PassingRows source rows := by
  obtain ⟨records, typed, reads, mapped, decided, rfl⟩ := gives.eq_filter rfl
  refine ⟨records, typed, reads, ?_, decided, rfl⟩
  cases reads with
  | ended => exact mapped
  | record => exact mapped

/-- What the rows of a scan to the end are made into is what the statement asks for. -/
theorem denotes_of_gives {p : Plan} {source : σ} {rows : List Row} {projected : List (List Value)}
    (gives : Scan.Gives p ⟨source, none⟩ rows none) (projects : rows.mapM p.project = .ok projected) :
    p.Denotes source (p.kept projected) := by
  obtain ⟨records, typed, reads, mapped, decided, rfl⟩ := passingRows_of_gives gives
  exact ⟨records, typed, projected, reads, mapped, decided, projects, rfl⟩

end PlainTables.Plan
