import PlainTables.Proofs.Records.CommonLines
import PlainTables.Proofs.Records.Failure
import PlainTables.Proofs.Records.TextRun
import PlainTables.Proofs.Splitting.Joined

/-!
# Records that are one line each

A line that leaves no quote open is split in a text as it is on its own, whatever stands below it. A line
without quotes leaves none open, unless its separators are quotes.

If no line leaves a quote open above another one, then the records of a table that ignores the lines it
cannot parse are those that its lines are on their own.
-/

namespace PlainTables.Delimiters

variable {d : Delimiters} {line : String} {trim : Bool}

theorem scan_of_noQuotes {text : List Char} (noQuotes : ∀ c ∈ text, some c ≠ d.quote) (position : Nat)
    (p : Progress) : ∃ p', d.scan position p text = .ok p' ∧ p'.quoted = p.quoted := by
  induction text generalizing position p with
  | nil => exact ⟨p, by rw [scan], rfl⟩
  | cons c text ih =>
    obtain ⟨notQuote, noQuotes⟩ := List.forall_mem_cons.mp noQuotes
    rw [scan.eq_def]
    simp only [notQuote, if_false]
    split
    · exact ih noQuotes _ _
    · exact ih noQuotes _ _

theorem not_endsQuoted_of_noQuotes (apart : d.quote ≠ some d.separator)
    (noQuotes : ∀ c ∈ line.toList, some c ≠ d.quote) : ¬ d.EndsQuoted trim line := by
  have inChunk : ∀ c ∈ d.chunk line.toList, some c ≠ d.quote := by
    intro c mem
    rcases List.mem_append.mp mem with inLine | isSeparator
    · exact noQuotes c inLine
    · rw [List.mem_singleton.mp isSeparator]
      exact apart.symm
  obtain ⟨p, scanned, closed⟩ := scan_of_noQuotes inChunk 0 {}
  rw [EndsQuoted, tokenize, scanned]
  simp [closed]

/-- If the separator is the quote as well, then no field ever ends. -/
theorem scan_of_same (same : d.quote = some d.separator) {text : List Char} {position : Nat}
    {p p' : Progress} (scanned : d.scan position p text = .ok p') : p'.fields = p.fields := by
  fun_induction d.scan position p text with
  | case1 => cases scanned; rfl
  | case2 _ _ _ _ _ _ ih => exact ih scanned
  | case3 => cases scanned
  | case4 => cases scanned
  | case5 _ _ _ _ _ _ ih => exact ih scanned
  | case6 => cases scanned
  | case7 => cases scanned
  | case8 _ _ c isQuote _ next _ single _ separator =>
    rw [same] at isQuote
    exact absurd ((not_not.mp separator).trans (Option.some.inj isQuote).symm) single
  | case9 _ _ c _ notQuote separator =>
    rw [same, (of_decide_eq_true (Bool.and_eq_true_iff.mp separator).1)] at notQuote
    exact absurd rfl notQuote
  | case10 _ _ _ _ _ _ ih => exact ih scanned

theorem tokenize_of_same (same : d.quote = some d.separator) {fields : List String}
    (read : d.tokenize line trim = .ok fields) : fields = [] := by
  unfold tokenize at read
  cases scanned : d.scan 0 {} (d.chunk line.toList) with
  | error m => rw [scanned] at read; cases read
  | ok p =>
    simp only [scanned] at read
    split at read
    · cases read
    · rw [← Except.ok.inj read, Progress.finish, scan_of_same same scanned]
      rfl

variable {ρ : Type} [LineSource ρ] {r : ρ}

theorem tokenizeRecord_of_ownLine (closed : ¬ d.EndsQuoted trim line) (r : ρ) :
    (∃ fields, d.tokenize line trim = .ok fields ∧ d.tokenizeRecord line r trim = (.ok fields, r)) ∨
    ∃ position fault, d.tokenize line trim = .error (.malformedQuote 1 position fault) ∧
      d.tokenizeRecord line r trim =
        (.error (.malformedQuote (max 1 (LineSource.lineNumber r)) position fault), r) := by
  rw [tokenizeRecord_eq_recordAfter]
  exact recordAfter_of_closed closed

theorem tokenizeRecord_of_endsQuoted (endsQuoted : d.EndsQuoted trim line)
    (atEnd : LineSource.readContinuation r = (.ok none, r)) :
    d.tokenizeRecord line r trim = (.error (.unterminatedQuote line), r) := by
  unfold EndsQuoted tokenize at endsQuoted
  unfold tokenizeRecord
  cases scanned : d.scan 0 {} (d.chunk line.toList) with
  | error m => rw [scanned] at endsQuoted; cases endsQuoted
  | ok p =>
    simp only [scanned] at endsQuoted
    split at endsQuoted
    · rename_i quoted
      simp only [quoted, if_true, continueRecord, atEnd]
    · cases endsQuoted

theorem continueRecord_of_same (same : d.quote = some d.separator) {number fuel position : Nat}
    {p : Progress} (noFields : p.fields = []) {fields : List String}
    (read : (d.continueRecord line number trim fuel position p r).1 = .ok fields) : fields = [] := by
  induction fuel generalizing position p r with
  | zero => cases read
  | succ fuel ih =>
    rw [continueRecord] at read
    rcases step : LineSource.readContinuation r with ⟨e | _ | next, r'⟩
    · rw [step] at read
      cases read
    · rw [step] at read
      cases read
    · simp only [step] at read
      split at read
      · cases read
      · rename_i p' scanned
        have noFields' : p'.fields = [] := (scan_of_same same scanned).trans noFields
        split at read
        · exact ih noFields' read
        · rw [← Except.ok.inj read, Progress.finish, noFields']
          rfl

theorem tokenizeRecord_of_same (same : d.quote = some d.separator) {fields : List String}
    (read : (d.tokenizeRecord line r trim).1 = .ok fields) : fields = [] := by
  unfold tokenizeRecord at read
  simp only at read
  split at read
  · cases read
  · rename_i p scanned
    have noFields : p.fields = [] := scan_of_same same scanned
    split at read
    · exact continueRecord_of_same same noFields read
    · rw [← Except.ok.inj read, Progress.finish, noFields]
      rfl

end PlainTables.Delimiters

namespace PlainTables

open ByteLines

namespace TextLayout

variable {o : TextLayout} {width : Option Nat} {trim : Bool} {line : String}

/-- The record that a line is on its own, unless it is ignored. -/
def ownRecord (o : TextLayout) (width : Option Nat) (trim : Bool) (line : String) :
    Option (List String) :=
  (o.delimiters.tokenize line trim).toOption.filter (isPlausible width)

theorem splitting_of_delimited (delimited : o.fixedWidths = none) :
    o.splitting = .delimited o.delimiters := by
  rw [splitting, delimited]

section

variable {ρ : Type} [LineSource ρ] {r s : ρ}

/-- A line that leaves no quote open is a record or ignored, whatever stands below it. -/
theorem readRecord_of_closed (width : Option Nat) (ignoring : o.ignoreUnparseableLines = true)
    (delimited : o.fixedWidths = none) (closed : ¬ o.delimiters.EndsQuoted trim line)
    (reading : LineSource.readLine r = (.ok (some line), s)) :
    o.readRecord width trim false r =
      match o.ownRecord width trim line with
      | some fields => (.ok (some fields), false, s)
      | none => o.readRecord width trim false s := by
  rw [readRecord_step, reading]
  simp only [Bool.false_and, Bool.false_eq_true, if_false, splitting_of_delimited delimited,
    Splitting.split, ignoring, ownRecord]
  rcases Delimiters.tokenizeRecord_of_ownLine closed s with
    ⟨fields, own, same⟩ | ⟨position, fault, own, same⟩
  · rw [same, own]
    cases kept : isPlausible width fields <;>
      simp [Except.toOption, Option.filter_some, kept]
  · rw [same, own]
    rfl

theorem readRecord_of_same (delimited : o.fixedWidths = none)
    (same : o.delimiters.quote = some o.delimiters.separator) {preamble : Bool} {fields : List String}
    (found : (o.readRecord width trim preamble r).1 = .ok (some fields)) : fields = [] := by
  have lines : LineSource.KeepsLines ρ (fun _ => True) fun _ => True :=
    LineSource.keepsLines_any (fun _ _ => trivial) fun _ _ => trivial
  obtain ⟨line, _, r', -, -, split⟩ :=
    exists_line_of_nextRecord readingErrors_any lines o width trim _ preamble trivial found
  rw [splitting_of_delimited delimited] at split
  exact Delimiters.tokenizeRecord_of_same same (congrArg Prod.fst split)

end

def ReadAlone (o : TextLayout) (lines : List String) : Prop :=
  ∀ line ∈ lines.dropLast, ¬ o.delimiters.EndsQuoted false line

theorem ReadAlone.tail {lines : List String} (alone : o.ReadAlone (line :: lines)) :
    o.ReadAlone lines := by
  cases lines with
  | nil => simp [ReadAlone]
  | cons next lines => exact fun line mem => alone line (List.mem_cons_of_mem _ mem)

theorem ReadAlone.of_append {front lines : List String} (alone : o.ReadAlone (front ++ lines)) :
    o.ReadAlone lines := by
  induction front with
  | nil => exact alone
  | cons line front ih => exact ih alone.tail

theorem ReadAlone.last_or_closed {lines : List String} (alone : o.ReadAlone (line :: lines)) :
    lines = [] ∧ o.delimiters.EndsQuoted false line ∨ ¬ o.delimiters.EndsQuoted false line := by
  cases lines with
  | nil => exact (em (o.delimiters.EndsQuoted false line)).imp_left fun open' => ⟨rfl, open'⟩
  | cons next lines => exact .inr (alone line List.mem_cons_self)

theorem ownRecord_of_error {e : QueryError} (fails : o.delimiters.tokenize line trim = .error e) :
    o.ownRecord width trim line = none := by
  rw [ownRecord, fails]
  rfl

variable {r : ByteLines} {lines lines' data : List String}

/-- Looking for a record passes over the lines that are ignored, and stops at the first other one. -/
theorem readRecord_of_alone (ignoring : o.ignoreUnparseableLines = true)
    (delimited : o.fixedWidths = none) (width : Option Nat) (alone : o.ReadAlone lines)
    (shows : r.Shows lines) :
    ((∀ line ∈ lines, o.ownRecord width false line = none) ∧
      ∃ s : ByteLines, o.readRecord width false false r = (.ok none, false, s) ∧ s.Shows []) ∨
    ∃ ignored line rest fields, lines = ignored ++ line :: rest ∧
      (∀ line ∈ ignored, o.ownRecord width false line = none) ∧
      o.ownRecord width false line = some fields ∧
      ∃ s : ByteLines, o.readRecord width false false r = (.ok (some fields), false, s) ∧
        s.Shows rest := by
  induction lines generalizing r with
  | nil => exact .inl ⟨by simp, r, o.readRecord_of_end width false false shows.readLine_nil, shows⟩
  | cons line lines ih =>
    obtain ⟨s, reading, below, _⟩ := shows.readLine_cons
    rcases alone.last_or_closed with ⟨rfl, endsQuoted⟩ | closed
    · have atEnd : LineSource.readContinuation s = (.ok none, s) := below.readLine_nil
      have split := Delimiters.tokenizeRecord_of_endsQuoted endsQuoted atEnd
      refine .inl ⟨by simpa using ownRecord_of_error endsQuoted, s, ?_, below⟩
      rw [readRecord_step, reading]
      simp only [Bool.false_and, Bool.false_eq_true, if_false, splitting_of_delimited delimited,
        Splitting.split, split, ignoring]
      exact o.readRecord_of_end width false false atEnd
    · have step := readRecord_of_closed width ignoring delimited closed reading
      cases own : o.ownRecord width false line with
      | some fields =>
        rw [own] at step
        exact .inr ⟨[], line, lines, fields, rfl, by simp, own, s, step, below⟩
      | none =>
        rw [own] at step
        rw [step]
        rcases ih alone.tail below with
          ⟨ignored, found⟩ | ⟨ignored, next, rest, fields, rfl, areIgnored, found⟩
        · exact .inl ⟨List.forall_mem_cons.mpr ⟨own, ignored⟩, found⟩
        · exact .inr ⟨line :: ignored, next, rest, fields, rfl,
            List.forall_mem_cons.mpr ⟨own, areIgnored⟩, found⟩

/-- What is no record of an unknown number of fields has one field, or none for a fault. -/
theorem ownRecord_of_ignored {count : Nat} (many : count ≠ 1)
    (ignored : o.ownRecord none trim line = none) : o.ownRecord (some count) trim line = none := by
  unfold ownRecord at ignored ⊢
  rw [Option.filter_eq_none_iff] at ignored ⊢
  intro fields own
  have single : fields.length = 1 := by simpa [isPlausible] using ignored fields own
  simpa [isPlausible, single] using many.symm

theorem ownRecord_of_first {fields : List String} (own : o.ownRecord none trim line = some fields) :
    fields.length ≠ 1 ∧ o.ownRecord (some fields.length) trim line = some fields := by
  unfold ownRecord at own ⊢
  rw [Option.filter_eq_some_iff] at own ⊢
  simpa [isPlausible, and_comm] using own

end TextLayout

namespace TextTable

open TextLayout
open RecordSource (Gives)

variable {o : TextLayout} {r : ByteLines} {lines lines' data : List String}

theorem gives_ownRecords (ignoring : o.ignoreUnparseableLines = true)
    (delimited : o.fixedWidths = none) (alone : o.ReadAlone lines) (shows : r.Shows lines)
    (columns fields : List String) :
    Gives TextTable.fields
      ({ lines := r, layout := o, columns, fields, preamble := false } : TextTable ByteLines)
      (lines.filterMap (o.ownRecord (some columns.length) false), none) := by
  induction length : lines.length using Nat.strongRecOn generalizing r lines fields with
  | _ n ih =>
    rcases readRecord_of_alone ignoring delimited (some columns.length) alone shows with
      ⟨ignored, s, reading, _⟩ |
        ⟨ignored, line, rest, found, rfl, areIgnored, own, s, reading, below⟩
    · rw [List.filterMap_eq_nil_iff.mpr ignored]
      refine ⟨[], .ended ?_, rfl⟩
      simp only [RecordSource.next, TextTable.next, reading]
      rfl
    · have shorter : rest.length < n := by
        simp only [← length, List.length_append, List.length_cons]
        omega
      obtain ⟨states, reads, same⟩ := ih _ shorter alone.of_append.tail below found rfl
      have next : RecordSource.next
          ({ lines := r, layout := o, columns, fields, preamble := false } : TextTable ByteLines) =
          (.ok true, { lines := s, layout := o, columns, fields := found, preamble := false }) := by
        simp only [RecordSource.next, TextTable.next, reading]
        rfl
      refine ⟨_, .record (congrArg Prod.fst next) (by rw [next]; exact reads), ?_⟩
      rw [List.map_cons, same, next, List.filterMap_append, List.filterMap_cons, own,
        List.filterMap_eq_nil_iff.mpr areIgnored]
      rfl

theorem gives_belowPreamble (ignoring : o.ignoreUnparseableLines = true)
    (delimited : o.fixedWidths = none) (alone : o.ReadAlone lines) {preamble : Bool}
    (below : Below o.commentChar preamble lines' lines) (shows : r.Shows lines')
    (columns : List String) :
    Gives TextTable.fields
      ({ lines := r, layout := o, columns, preamble } : TextTable ByteLines)
      (lines.filterMap (o.ownRecord (some columns.length) false), none) := by
  obtain ⟨r', shows', same, _⟩ := o.recordIn_below (some columns.length) false shows below
  have plain := gives_ownRecords ignoring delimited alone shows' columns []
  rcases reading : o.readRecord (some columns.length) false preamble r with ⟨found, after, s⟩
  rcases reading' : o.readRecord (some columns.length) false false r' with ⟨found', after', s'⟩
  rw [recordIn, recordIn, reading, reading'] at same
  cases same
  refine plain.congr ?_ ?_
  · simp only [RecordSource.next, TextTable.next, reading, reading']
    rcases found with e | _ | fields <;> rfl
  · simp only [RecordSource.next, TextTable.next, reading, reading']
    rcases found with e | _ | fields
    · simp
    · simp
    · rw [preamble_of_record reading, preamble_of_record reading']
      exact fun _ => rfl

theorem gives_pending (ignoring : o.ignoreUnparseableLines = true) (delimited : o.fixedWidths = none)
    (alone : o.ReadAlone lines) (shows : r.Shows lines) (columns first : List String) :
    Gives TextTable.fields
      ({ lines := r, layout := o, columns, pending := some first, preamble := false } :
        TextTable ByteLines)
      (first :: lines.filterMap (o.ownRecord (some columns.length) false), none) := by
  obtain ⟨states, reads, same⟩ := gives_ownRecords ignoring delimited alone shows columns first
  refine ⟨_, .record rfl reads, ?_⟩
  rw [List.map_cons, same]
  rfl

end TextTable

end PlainTables
