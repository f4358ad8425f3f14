import PlainTables.Proofs.Lines.Preamble
import PlainTables.Proofs.Records.Outcome
import PlainTables.Proofs.Records.TextRecord

/-!
# The records below the top of a text

A text is opened by reading its top: the lines to skip, the preamble and the header. What is left is a
run of records, which the opened table gives, also where the first of them was read ahead.
-/

namespace PlainTables.TextLayout

variable {ρ : Type} [LineSource ρ] {o : TextLayout}

/-- What reading records from a source gives: each record with the source after it. -/
inductive Run (o : TextLayout) : Bool → ρ → Outcome (List String × ρ) → Prop
  | ended {preamble after r r'} : o.readRecord none false preamble r = (.ok none, after, r') →
      LineSource.readLine r' = (.ok none, r') → Run o preamble r ([], none)
  | failed {preamble after r r' e} : o.readRecord none false preamble r = (.error e, after, r') →
      Run o preamble r ([], some e)
  | record {preamble r r' fields records stop} :
      o.readRecord none false preamble r = (.ok (some fields), false, r') →
      Run o false r' (records, stop) → Run o preamble r ((fields, r') :: records, stop)

theorem exists_run (strict : o.ignoreUnparseableLines = false) (preamble : Bool) (r : ByteLines) :
    ∃ outcome, Run o preamble r outcome := by
  induction remaining : LineSource.remaining r using Nat.strongRecOn generalizing preamble r with
  | _ n ih =>
    match reading : o.readRecord none false preamble r with
    | (.error e, _, _) => exact ⟨_, .failed reading⟩
    | (.ok none, _, _) => exact ⟨_, .ended reading (readLine_of_ended strict reading).2⟩
    | (.ok (some fields), after, r') =>
      obtain rfl := preamble_of_record reading
      have fewer := o.remaining_nextRecord none false (LineSource.remaining r + 1) preamble r fields
        (congrArg Prod.fst reading)
      have left : o.nextRecord none false (LineSource.remaining r + 1) preamble r = _ := reading
      rw [left, remaining] at fewer
      obtain ⟨⟨records, stop⟩, run⟩ := ih _ fewer false r' rfl
      exact ⟨_, .record reading run⟩

/-- What is read first decides about the whole run. -/
theorem Run.congr {preamble preamble' : Bool} {r r' : ρ} {outcome : Outcome (List String × ρ)}
    (run : Run o preamble' r' outcome)
    (same : o.readRecord none false preamble r = o.readRecord none false preamble' r') :
    Run o preamble r outcome := by
  cases run with
  | ended reading ended => exact .ended (same.trans reading) ended
  | failed reading => exact .failed (same.trans reading)
  | record reading run => exact .record (same.trans reading) run

/-- What stands in a text above its records: with a header, after it, and without one, before the
preamble. -/
inductive Top (o : TextLayout) : ρ → List String → Bool → ρ → Prop
  | bare {r s t} : o.suppressHeaders = true → LineSource.skip o.skipLeadingLines r = (.ok (), s) →
      LineSource.skip o.skipLeadingDataLines s = (.ok (), t) → Top o r [] o.commentChar.isSome t
  | headed {r s t u header after} : o.suppressHeaders = false →
      LineSource.skip o.skipLeadingLines r = (.ok (), s) →
      o.readRecord none o.trimHeaders o.commentChar.isSome s = (.ok header, after, t) →
      LineSource.skip o.skipLeadingDataLines t = (.ok (), u) → Top o r (header.getD []) after u

theorem Top.unique {r s s' : ρ} {header header' : List String} {preamble preamble' : Bool}
    (top : Top o r header preamble s) (top' : Top o r header' preamble' s') :
    header = header' ∧ preamble = preamble' ∧ s = s' := by
  cases top with
  | bare bare skipped skipped₂ =>
    cases top' with
    | headed headed => exact absurd (headed.symm.trans bare) Bool.false_ne_true
    | bare _ skipped' skipped₂' =>
      cases skipped.symm.trans skipped'
      cases skipped₂.symm.trans skipped₂'
      exact ⟨rfl, rfl, rfl⟩
  | headed headed skipped reading skipped₂ =>
    cases top' with
    | bare bare => exact absurd (headed.symm.trans bare) Bool.false_ne_true
    | headed _ skipped' reading' skipped₂' =>
      cases skipped.symm.trans skipped'
      cases reading.symm.trans reading'
      cases skipped₂.symm.trans skipped₂'
      exact ⟨rfl, rfl, rfl⟩

theorem Top.of_end {r : ρ}
    (atEnd : LineSource.readLine r = (.ok none, r)) : Top o r [] o.commentChar.isSome r := by
  have skipped := LineSource.skip_of_end atEnd
  cases headers : o.suppressHeaders with
  | true => exact .bare headers (skipped _) (skipped _)
  | false =>
    exact .headed headers (skipped _) (o.readRecord_of_end _ _ _ atEnd) (skipped _)

/-- The names that the columns have if the header is not configured. Without a header they are
numbered by the first record, which then has to be readable. -/
def ownNames (o : TextLayout) (header : List String) (outcome : Outcome (List String × ρ)) :
    Except QueryError (List String) :=
  if o.suppressHeaders then
    match outcome with
    | ([], some e) => .error e
    | ([], none) => .ok (numberedNames 0)
    | ((fields, _) :: _, _) => .ok (numberedNames fields.length)
  else .ok header

def columnsOf (o : TextLayout) (header : List String) (outcome : Outcome (List String × ρ)) :
    Except QueryError (List String) :=
  (o.configured.getD (o.ownNames header outcome)).bind o.settle

omit [LineSource ρ] in
theorem columnsOf_cons {ρ' : Type} (o : TextLayout) (header fields : List String) (r : ρ) (r' : ρ')
    (records : List (List String × ρ)) (records' : List (List String × ρ'))
    (stop stop' : Option QueryError) :
    o.columnsOf header ((fields, r) :: records, stop) =
      o.columnsOf header ((fields, r') :: records', stop') :=
  rfl

end PlainTables.TextLayout

namespace PlainTables.TextTable

open TextLayout

variable {ρ : Type} [LineSource ρ] {o : TextLayout}

theorem gives_run {preamble : Bool} {r : ρ} {outcome : Outcome (List String × ρ)}
    (strict : o.ignoreUnparseableLines = false) (run : Run o preamble r outcome)
    (columns fields : List String) :
    RecordSource.Gives shown
      ({ lines := r, layout := o, columns, fields, preamble } : TextTable ρ) outcome := by
  induction run generalizing fields with
  | ended reading =>
    refine ⟨[], .ended ?_, rfl⟩
    simp only [RecordSource.next, TextTable.next, readRecord_width strict, reading]
    rfl
  | failed reading =>
    refine ⟨[], .failed ?_, rfl⟩
    simp only [RecordSource.next, TextTable.next, readRecord_width strict, reading]
    rfl
  | @record preamble r r' fields' records stop reading _ ih =>
    obtain ⟨states, reads, same⟩ := ih fields'
    have next : RecordSource.next
        ({ lines := r, layout := o, columns, fields, preamble } : TextTable ρ) =
        (.ok true,
          { lines := r', layout := o, columns, fields := fields', preamble := false }) := by
      simp only [RecordSource.next, TextTable.next, readRecord_width strict, reading]
      rfl
    refine ⟨_, .record (congrArg Prod.fst next) (by rw [next]; exact reads), ?_⟩
    rw [List.map_cons, same, next]
    rfl

theorem gives_readAhead {preamble after : Bool} {r r' : ρ} {first : Option (List String)}
    {outcome : Outcome (List String × ρ)} (strict : o.ignoreUnparseableLines = false)
    (reading : o.readRecord none false preamble r = (.ok first, after, r'))
    (run : Run o preamble r outcome) (columns : List String) :
    RecordSource.Gives shown
      ({ lines := r', layout := o, columns, pending := first, preamble := after } : TextTable ρ)
      outcome := by
  cases run with
  | failed other => rw [reading] at other; cases other
  | ended other atEnd =>
    rw [reading] at other
    cases other
    refine ⟨[], .ended ?_, rfl⟩
    simp only [RecordSource.next, TextTable.next, readRecord_width strict]
    rw [readRecord_eq strict, atEnd]
    rfl
  | @record _ _ _ fields records stop other run =>
    rw [reading] at other
    cases other
    obtain ⟨states, reads, same⟩ := gives_run strict run columns fields
    refine ⟨_, .record rfl reads, ?_⟩
    rw [List.map_cons, same]
    rfl

theorem ofLines_of_skip {r s : ρ} (skipped : LineSource.skip o.skipLeadingLines r = (.ok (), s)) :
    ofLines o r = if o.suppressHeaders then openBare o s else openHeaded o s := by
  unfold ofLines
  rw [skipped]
  rfl

theorem bind_settle {α : Type} (names : Except QueryError (List String)) (f : List String → α) :
    (do let columns ← o.settle (← names); return f columns) = (names.bind o.settle).map f := by
  cases names with
  | error e => rfl
  | ok names => cases settled : o.settle names <;> simp only [bind, Except.bind, settled] <;> rfl

theorem openHeaded_eq {r s t : ρ} {header : Option (List String)} {after : Bool}
    (reading : o.readRecord none o.trimHeaders o.commentChar.isSome r = (.ok header, after, s))
    (skipped : LineSource.skip o.skipLeadingDataLines s = (.ok (), t)) :
    openHeaded o r = ((o.configured.getD (.ok (header.getD []))).bind o.settle).map fun columns =>
      { lines := t, layout := o, columns, preamble := after } := by
  rw [← bind_settle, openHeaded, reading]
  simp only [skipped]
  rfl

theorem openBare_eq_of_configured {r s : ρ} {names : Except QueryError (List String)}
    (skipped : LineSource.skip o.skipLeadingDataLines r = (.ok (), s))
    (configured : o.configured = some names) :
    openBare o r = (names.bind o.settle).map fun columns =>
      { lines := s, layout := o, columns, preamble := o.commentChar.isSome } := by
  rw [← bind_settle, openBare, skipped]
  simp only [configured]
  rfl

/-- Without a header that is configured the columns are numbered by the first record. -/
theorem openBare_eq_of_reading {r s t : ρ} {first : Except QueryError (Option (List String))}
    {after : Bool} (skipped : LineSource.skip o.skipLeadingDataLines r = (.ok (), s))
    (unnamed : o.configured = none)
    (reading : o.readRecord none false o.commentChar.isSome s = (first, after, t)) :
    openBare o r = first.bind fun pending =>
      (o.settle (numberedNames ((pending.map List.length).getD 0))).map fun columns =>
        { lines := t, layout := o, columns, pending, preamble := after } := by
  rw [openBare, skipped]
  simp only [unnamed, reading]
  cases first with
  | error e => rfl
  | ok pending => exact bind_settle (.ok _) _

/-- Opening a text settles its columns, and the table gives the run below its top. -/
theorem ofLines_of_top {header : List String} {preamble : Bool} {r r' : ρ}
    {outcome : Outcome (List String × ρ)} (strict : o.ignoreUnparseableLines = false)
    (top : Top o r header preamble r') (run : Run o preamble r' outcome) :
    ∃ table : List String → TextTable ρ,
      ofLines o r = (o.columnsOf header outcome).map table ∧
      ∀ columns, (table columns).columns = columns ∧
        RecordSource.Gives shown (table columns) outcome := by
  cases top with
  | headed headed skipped reading skipped' =>
    refine ⟨fun columns => { lines := r', layout := o, columns, preamble }, ?_,
      fun columns => ⟨rfl, gives_run strict run columns []⟩⟩
    simp only [ofLines_of_skip skipped, openHeaded_eq reading skipped', columnsOf, ownNames, headed,
      Bool.false_eq_true, if_false]
  | bare bare skipped skipped' =>
    rw [ofLines_of_skip skipped, bare, if_pos rfl]
    cases named : o.configured with
    | some names =>
      refine ⟨fun columns => { lines := r', layout := o, columns, preamble := o.commentChar.isSome },
        ?_, fun columns => ⟨rfl, gives_run strict run columns []⟩⟩
      rw [openBare_eq_of_configured skipped' named, columnsOf, named, Option.getD_some]
    | none =>
      match reading : o.readRecord none false o.commentChar.isSome r' with
      | (.ok first, after, u) =>
        refine ⟨fun columns =>
          { lines := u, layout := o, columns, pending := first, preamble := after },
          ?_, fun columns => ⟨rfl, gives_readAhead strict reading run columns⟩⟩
        have names : o.ownNames [] outcome =
            .ok (numberedNames ((first.map List.length).getD 0)) := by
          unfold ownNames
          rw [bare, if_pos rfl]
          cases run with
          | ended other => rw [reading] at other; cases other; rfl
          | failed other => rw [reading] at other; cases other
          | record other => rw [reading] at other; cases other; rfl
        rw [openBare_eq_of_reading skipped' named reading, columnsOf, named, Option.getD_none, names]
        rfl
      | (.error e, after, u) =>
        cases run with
        | ended other => rw [reading] at other; cases other
        | record other => rw [reading] at other; cases other
        | failed other =>
          rw [reading] at other
          cases other
          refine ⟨fun columns =>
            { lines := r', layout := o, columns, preamble := o.commentChar.isSome }, ?_,
            fun columns => ⟨rfl, gives_run strict (.failed reading) columns []⟩⟩
          rw [openBare_eq_of_reading skipped' named reading, columnsOf, named, Option.getD_none]
          simp only [ownNames, bare]
          rfl

end PlainTables.TextTable
