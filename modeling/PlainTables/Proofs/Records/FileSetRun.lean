import Mathlib.Data.List.Forall2
import PlainTables.Proofs.Records.FileTop
import PlainTables.Proofs.Records.Tagged

/-!
# The run of a set of files

A set gives the records of its first file below the top that the table reads, and then those of each
later file below the top that the set drops.
-/

namespace PlainTables

open ByteLines FileSetLines

namespace TextLayout

variable {o : TextLayout} {cipher : Option Cipher} {file : SetFile} {files : List SetFile}
  {bytes : List UInt8}

theorem run_later (files : List SetFile) (strict : o.ignoreUnparseableLines = false)
    (oneLine : o.HeaderOnOneLine bytes)
    (opening : FileSetLines.openFile cipher file = .ok (ofBytes bytes)) :
    ∃ header preamble r, Top o (ofBytes bytes) header preamble r ∧
      ∀ own, Run o preamble r own → ∀ next values,
        (∀ inSet, o.AllowsPreamble inSet →
          Run o inSet (before (o.laterFiles cipher) files file.values true) next) →
        ∀ inSet, o.AllowsPreamble inSet →
          Run o inSet (before (o.laterFiles cipher) (file :: files) values true)
            ((placed (o.laterFiles cipher) files file.values own).followedBy next) := by
  cases headers : o.suppressHeaders with
  | false =>
    obtain ⟨header, preamble, rest, k, top, dropped, _, noComments⟩ :=
      exists_top_headed cipher strict headers oneLine
    refine ⟨header, preamble, atBytes rest k, top, fun own run next values others inSet allowed => ?_⟩
    obtain rfl : inSet = false := allowed headers
    have run : Run o false (atBytes rest k) own := by
      obtain rfl | rfl := noComments
      · exact run
      · exact run.of_end
    have line := readLine_before_later (o := o.laterFiles cipher) files values opening
      dropped
    exact run.carriedOver strict
      ((readRecord_congr o none false false line).trans (readRecord_inside_strict strict false false _))
      allowed others
  | true =>
    obtain ⟨rest, k, top, dropped, _⟩ := exists_top_bare cipher headers bytes
    refine ⟨[], _, atBytes rest k, top, fun own run next values others inSet allowed => ?_⟩
    exact run.carriedOver strict (readRecord_later_bare strict opening dropped inSet) allowed others

/-- The first file gives its own records below the top that a table in the set reads. -/
theorem run_first (files : List SetFile) (strict : o.ignoreUnparseableLines = false)
    (oneLine : o.HeaderOnOneLine bytes) (holds : o.HoldsTop bytes)
    (opening : FileSetLines.openFile cipher file = .ok (ofBytes bytes)) :
    ∃ header preamble r s, Top o (ofBytes bytes) header preamble r ∧
      Top o (before (o.laterFiles cipher) (file :: files) [] false) header preamble s ∧
      ∀ own, Run o preamble r own → ∀ next,
        (∀ inSet, o.AllowsPreamble inSet →
          Run o inSet (before (o.laterFiles cipher) files file.values true) next) →
        Run o preamble s
          ((placed (o.laterFiles cipher) files file.values own).followedBy next) := by
  obtain ⟨header, preamble, r, top, allowed, inSet⟩ :=
    exists_top_first (l := o.laterFiles cipher) (holds.reachesRecords strict oneLine) opening
  obtain ⟨s, topSet, same⟩ := inSet files
  exact ⟨header, preamble, r, s, top, topSet,
    fun own run next others => run.inSet strict allowed same others⟩

/-- Columns that can be settled for the records of a file can be settled in the set. -/
theorem columnsOf_followedBy {l : FileSetLayout} {values header columns : List String}
    {own : Outcome (List String × ByteLines)} {next : Outcome (List String × FileSetLines)}
    (settled : o.columnsOf header own = .ok columns)
    (later : o.suppressHeaders = true → ∃ columns, o.columnsOf header next = .ok columns) :
    ∃ columns, o.columnsOf header ((placed l files values own).followedBy next) = .ok columns := by
  unfold columnsOf at settled later ⊢
  cases named : o.configured with
  | some names =>
    rw [named] at settled
    exact ⟨columns, settled⟩
  | none =>
    rw [named] at settled later
    unfold ownNames at settled later ⊢
    cases headers : o.suppressHeaders with
    | false =>
      rw [headers] at settled
      exact ⟨columns, settled⟩
    | true =>
      rw [headers] at settled later
      match own with
      | ([], some e) => cases settled
      | ([], none) => exact later rfl
      | ((fields, r) :: records, some e) => exact ⟨columns, settled⟩
      | ((fields, r) :: records, none) => exact ⟨columns, settled⟩

def seenIn (values : List String) (record : List String × ByteLines) :
    List (Option String) × List String :=
  (record.1.map fun field => some (Text.trimmed field), values)

/-- The fields of a record as they can be seen, with the values of the file that is being read. -/
def seen (record : List String × FileSetLines) : List (Option String) × List String :=
  (record.1.map fun field => some (Text.trimmed field), LineSource.fileValues record.2)

theorem map_seen_placed (l : FileSetLayout) (files : List SetFile) (values : List String)
    (own : Outcome (List String × ByteLines)) :
    (placed l files values own).map seen = own.map (seenIn values) := by
  rw [placed, Outcome.map_map]
  rfl

def Opens (o : TextLayout) (bytes : List UInt8) : Prop :=
  (TextTable.ofLines o (ofBytes bytes)).isOk

instance (o : TextLayout) : DecidablePred o.Opens :=
  fun bytes => inferInstanceAs (Decidable ((TextTable.ofLines o (ofBytes bytes)).isOk = true))

/-- Reading a file alone gives these records, to each of which the values of its name are added. -/
def ReadsAlone (o : TextLayout) (bytes : List UInt8) (values : List String)
    (outcome : Outcome (List (Option String) × List String)) : Prop :=
  ∃ t, TextTable.ofLines o (ofBytes bytes) = .ok t ∧
    RecordSource.Gives (fun s => (RecordSource.fields s, values)) t outcome

theorem ReadsAlone.unique {o : TextLayout} {bytes : List UInt8} {values : List String}
    {outcome outcome' : Outcome (List (Option String) × List String)}
    (alone : o.ReadsAlone bytes values outcome) (alone' : o.ReadsAlone bytes values outcome') :
    outcome = outcome' := by
  obtain ⟨t, opened, gives⟩ := alone
  obtain ⟨t', opened', gives'⟩ := alone'
  cases opened.symm.trans opened'
  exact gives.unique gives'

theorem readsAlone_of_map {o : TextLayout} {bytes : List UInt8} {values : List String} (fuel : Nat)
    (names : List String) (records : List (List (Option String))) (stop : Option QueryError)
    (read : (TextTable.ofLines o (ofBytes bytes)).map (fun t =>
        (t.columns, RecordSource.outcomeWithin RecordSource.fields fuel t)) = .ok (names, some (records, stop))) :
    o.ReadsAlone bytes values (records.map fun record => (record, values), stop) := by
  obtain ⟨t, opened, _, gives⟩ := RecordSource.exists_gives_of_map read
  exact ⟨t, opened, gives.map fun record => (record, values)⟩

def ReadsEach (o : TextLayout) (text : SetFile → List UInt8) (files : List SetFile)
    (whole : Outcome (List String × FileSetLines)) : Prop :=
  ∃ outcomes, List.Forall₂ (fun file => o.ReadsAlone (text file) file.values) files outcomes ∧
    whole.map seen = Outcome.joined outcomes

theorem ReadsEach.cons {text : SetFile → List UInt8} {own : Outcome (List String × ByteLines)}
    {whole : Outcome (List String × FileSetLines)} (l : FileSetLayout)
    (alone : o.ReadsAlone (text file) file.values (own.map (seenIn file.values)))
    (others : o.ReadsEach text files whole) :
    o.ReadsEach text (file :: files) ((placed l files file.values own).followedBy whole) := by
  obtain ⟨outcomes, each, same⟩ := others
  refine ⟨_ :: outcomes, .cons alone each, ?_⟩
  rw [Outcome.map_followedBy, same, map_seen_placed]
  rfl

theorem readsAlone_of_gives {table : TextTable ByteLines}
    {own : Outcome (List String × ByteLines)}
    (opened : TextTable.ofLines o (ofBytes bytes) = .ok table)
    (gives : RecordSource.Gives TextTable.shown table own) (values : List String) :
    o.ReadsAlone bytes values (own.map (seenIn values)) := by
  have visible := gives.map (seenIn values)
  have same : seenIn values ∘ TextTable.shown = fun s => (RecordSource.fields s, values) := by
    funext s
    rw [TextTable.fields_eq]
    rfl
  rw [same] at visible
  exact ⟨table, opened, visible⟩

/-- A text that can be opened settles its columns and gives the records below its top. -/
theorem readsAlone_of_top (strict : o.ignoreUnparseableLines = false) {header : List String}
    {preamble : Bool} {r : ByteLines} {own : Outcome (List String × ByteLines)}
    (opens : o.Opens bytes) (top : Top o (ofBytes bytes) header preamble r)
    (run : Run o preamble r own) (values : List String) :
    (∃ columns, o.columnsOf header own = .ok columns) ∧
      o.ReadsAlone bytes values (own.map (seenIn values)) := by
  unfold Opens at opens
  obtain ⟨table, opening, gives⟩ := TextTable.ofLines_of_top strict top run
  cases settled : o.columnsOf header own with
  | error e =>
    rw [opening, settled] at opens
    cases opens
  | ok columns =>
    rw [settled] at opening
    exact ⟨⟨columns, rfl⟩, readsAlone_of_gives opening (gives columns).2 values⟩

theorem columnsOf_of_opens_nil (strict : o.ignoreUnparseableLines = false) (opens : o.Opens []) :
    ∃ columns, o.columnsOf [] (([], none) : Outcome (List String × ByteLines)) = .ok columns :=
  (readsAlone_of_top strict opens (.of_end rfl) (.ended rfl rfl) []).1

theorem exists_error_of_not_opens (strict : o.ignoreUnparseableLines = false)
    (fails : ¬ o.Opens []) :
    ∃ e, o.columnsOf [] (([], none) : Outcome (List String × ByteLines)) = .error e ∧
      TextTable.ofLines o (ofBytes []) = .error e := by
  have run : Run o o.commentChar.isSome (ofBytes []) ([], none) := .ended rfl rfl
  obtain ⟨table, opening, _⟩ := TextTable.ofLines_of_top strict (.of_end rfl) run
  cases settled : o.columnsOf [] (([], none) : Outcome (List String × ByteLines)) with
  | error e =>
    rw [settled] at opening
    exact ⟨e, rfl, opening⟩
  | ok columns =>
    rw [Opens, opening, settled] at fails
    exact absurd rfl fails

/-- Only a configured header keeps an empty text from being opened, and then it does so with every
text. -/
theorem columnsOf_eq_error {e : QueryError}
    (failed : o.columnsOf [] (([], none) : Outcome (List String × ByteLines)) = .error e)
    {ρ : Type} (header : List String) (outcome : Outcome (List String × ρ)) :
    o.columnsOf header outcome = .error e := by
  cases named : o.configured with
  | some names =>
    rw [columnsOf, named] at failed ⊢
    exact failed
  | none =>
    have settled : o.settle [] = .ok [] := by
      cases defective : o.defectiveHeaders <;> simp [settle, defective, repair, duplicate?]
    have names : o.ownNames [] (([], none) : Outcome (List String × ByteLines)) = .ok [] := by
      cases headers : o.suppressHeaders <;> simp [ownNames, headers, numberedNames]
    rw [columnsOf, named, Option.getD_none, names] at failed
    exact absurd (settled.symm.trans failed) (by simp)

theorem opens_nil_of_opens (strict : o.ignoreUnparseableLines = false)
    (oneLine : o.HeaderOnOneLine bytes) (opens : o.Opens bytes) : o.Opens [] := by
  by_contra fails
  obtain ⟨e, failed, _⟩ := exists_error_of_not_opens strict fails
  obtain ⟨header, preamble, rest, k, top, _⟩ := exists_top strict oneLine
  obtain ⟨own, run⟩ := exists_run strict preamble (atBytes rest k)
  obtain ⟨⟨columns, settled⟩, _⟩ := readsAlone_of_top strict opens top run []
  rw [columnsOf_eq_error failed] at settled
  cases settled

theorem run_files (strict : o.ignoreUnparseableLines = false) {text : SetFile → List UInt8}
    (plain : ∀ file ∈ files, FileSetLines.openFile cipher file = .ok (ofBytes (text file)))
    (oneLine : ∀ file ∈ files, o.HeaderOnOneLine (text file)) :
    ∃ whole,
      (∀ values inSet, o.AllowsPreamble inSet →
        Run o inSet (before (o.laterFiles cipher) files values true) whole) ∧
      ((∀ file ∈ files, o.Opens (text file)) → o.Opens [] → o.ReadsEach text files whole ∧
        ∀ header, o.suppressHeaders = true → ∃ columns, o.columnsOf header whole = .ok columns) := by
  induction files with
  | nil =>
    refine ⟨([], none), fun values inSet _ => .ended rfl rfl, fun _ usable => ?_⟩
    refine ⟨⟨[], .nil, rfl⟩, fun header headers => ?_⟩
    have settled := columnsOf_of_opens_nil strict usable
    simpa only [columnsOf, ownNames, headers, if_true] using settled
  | cons file files ih =>
    obtain ⟨whole, run, readable⟩ :=
      ih (fun file mem => plain file (List.mem_cons_of_mem _ mem))
        (fun file mem => oneLine file (List.mem_cons_of_mem _ mem))
    obtain ⟨header, preamble, r, top, later⟩ := run_later files strict
      (oneLine file List.mem_cons_self) (plain file List.mem_cons_self)
    obtain ⟨own, ownRun⟩ := exists_run strict preamble r
    refine ⟨(placed (o.laterFiles cipher) files file.values own).followedBy whole,
      fun values => later own ownRun whole values (run file.values), fun opens usable => ?_⟩
    obtain ⟨others, settled⟩ :=
      readable (fun file mem => opens file (List.mem_cons_of_mem _ mem)) usable
    obtain ⟨⟨columns, ownSettled⟩, ownAlone⟩ :=
      readsAlone_of_top strict (opens file List.mem_cons_self) top ownRun file.values
    refine ⟨others.cons _ ownAlone, fun header' headers => ?_⟩
    have sameColumns : o.columnsOf header' own = .ok columns := by
      rw [← ownSettled]
      simp only [columnsOf, ownNames, headers, if_true]
    exact columnsOf_followedBy sameColumns (settled header')

theorem run_set (strict : o.ignoreUnparseableLines = false) {text : SetFile → List UInt8}
    (plain : ∀ file ∈ files, FileSetLines.openFile cipher file = .ok (ofBytes (text file)))
    (oneLine : ∀ file ∈ files, o.HeaderOnOneLine (text file))
    (holds : ∀ file ∈ files.head?, o.HoldsTop (text file)) :
    ∃ header preamble s whole,
      Top o (before (o.laterFiles cipher) files [] false) header preamble s ∧
      Run o preamble s whole ∧
      ((∀ file ∈ files, o.Opens (text file)) → o.Opens [] → o.ReadsEach text files whole ∧
        ∃ columns, o.columnsOf header whole = .ok columns) := by
  cases files with
  | nil =>
    refine ⟨_, _, _, ([], none), .of_end rfl, .ended rfl rfl, fun _ usable => ?_⟩
    exact ⟨⟨[], .nil, rfl⟩, columnsOf_of_opens_nil strict usable⟩
  | cons file files =>
    obtain ⟨whole, run, readable⟩ :=
      run_files strict (fun file mem => plain file (List.mem_cons_of_mem _ mem))
        (fun file mem => oneLine file (List.mem_cons_of_mem _ mem))
    obtain ⟨header, preamble, r, s, top, topSet, first⟩ := run_first files strict
      (oneLine file List.mem_cons_self) (holds file rfl) (plain file List.mem_cons_self)
    obtain ⟨own, ownRun⟩ := exists_run strict preamble r
    refine ⟨header, preamble, s, _, topSet, first own ownRun whole (run file.values),
      fun opens usable => ?_⟩
    obtain ⟨others, settled⟩ :=
      readable (fun file mem => opens file (List.mem_cons_of_mem _ mem)) usable
    obtain ⟨⟨columns, ownSettled⟩, ownAlone⟩ :=
      readsAlone_of_top strict (opens file List.mem_cons_self) top ownRun file.values
    exact ⟨others.cons _ ownAlone, columnsOf_followedBy ownSettled (settled header)⟩

end TextLayout

end PlainTables
