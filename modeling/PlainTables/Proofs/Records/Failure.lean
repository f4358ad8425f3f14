import PlainTables.Proofs.Computation
import PlainTables.Proofs.Records.Outcome
import PlainTables.Records.Shape

/-!
# Failing reading

Reading a table fails for its files and its quotes, and for the cipher of a set of files if this does not
accept its parameters. A property that reading lines preserves, such as having a cipher that does, is
preserved by everything that is read from the lines.
-/

namespace PlainTables

structure ReadingErrors (kind : QueryError → Prop) : Prop where
  io : ∀ fault, kind (.io fault)
  quotes : ∀ e : QueryError, e.isQuoteError = true → kind e

def Keeps {ρ α : Type} (good : ρ → Prop) (kind : QueryError → Prop) (reading : Reading ρ α) : Prop :=
  FailsOnly kind reading.1 ∧ good reading.2

structure LineSource.KeepsLines (ρ : Type) [LineSource ρ] (good : ρ → Prop)
    (kind : QueryError → Prop) : Prop where
  readLine : ∀ r : ρ, good r → Keeps good kind (readLine r)
  readContinuation : ∀ r : ρ, good r → Keeps good kind (readContinuation r)

theorem readingErrors_any : ReadingErrors fun _ => True :=
  ⟨fun _ => trivial, fun _ _ => trivial⟩

theorem LineSource.keepsLines_any {ρ : Type} [LineSource ρ] {good : ρ → Prop}
    (line : ∀ r, good r → good (readLine r).2)
    (continuation : ∀ r, good r → good (readContinuation r).2) :
    KeepsLines ρ good fun _ => True :=
  ⟨fun r start => ⟨fun _ _ => trivial, line r start⟩,
    fun r start => ⟨fun _ _ => trivial, continuation r start⟩⟩

variable {kind : QueryError → Prop}

namespace LineSource

variable {ρ : Type} [LineSource ρ] {good : ρ → Prop} (lines : KeepsLines ρ good kind)

include lines

theorem keeps_skip (n : Nat) {r : ρ} (start : good r) : Keeps good kind (skip n r) := by
  induction n generalizing r with
  | zero => exact ⟨.ok (), start⟩
  | succ n ih =>
    have first := lines.readLine r start
    rw [skip]
    generalize readLine r = step at first ⊢
    obtain ⟨result, r⟩ := step
    rcases result with e | _ | line
    · exact ⟨first.1.passOn, first.2⟩
    · exact ⟨.ok (), first.2⟩
    · exact ih first.2

theorem keeps_readAfterPreamble (c : Option Char) (n : Nat) {r : ρ} (start : good r) :
    Keeps good kind (readAfterPreamble c n r) := by
  induction n generalizing r with
  | zero => exact ⟨.ok none, start⟩
  | succ n ih =>
    have first := lines.readLine r start
    rw [readAfterPreamble]
    generalize readLine r = step at first ⊢
    obtain ⟨result, r⟩ := step
    rcases result with e | _ | line
    · exact first
    · exact ⟨.ok none, first.2⟩
    · simp only
      split
      · exact ih first.2
      · exact ⟨.ok (some line), first.2⟩

theorem exists_line_of_readAfterPreamble (c : Option Char) (n : Nat) {r : ρ} (start : good r)
    {line : String} (found : (readAfterPreamble c n r).1 = .ok (some line)) :
    ∃ r₀, good r₀ ∧ readLine r₀ = (.ok (some line), (readAfterPreamble c n r).2) := by
  induction n generalizing r with
  | zero => cases found
  | succ n ih =>
    have first := (lines.readLine r start).2
    rw [readAfterPreamble] at found ⊢
    rcases reading : readLine r with ⟨e | _ | next, r'⟩
    · rw [reading] at found
      cases found
    · rw [reading] at found
      cases found
    · rw [reading] at first
      simp only [reading] at found ⊢
      by_cases comment : isPreamble c next
      · rw [if_pos comment] at found ⊢
        exact ih first found
      · rw [if_neg comment] at found ⊢
        cases found
        exact ⟨r, start, reading⟩

end LineSource

namespace ByteLines

variable (errors : ReadingErrors kind)

include errors

theorem failsOnly_readLine (r : ByteLines) : FailsOnly kind r.readLine.1 := by
  unfold readLine
  split
  · exact .error (errors.io _)
  · exact .error (errors.io _)
  · exact .ok none
  · exact .ok _

theorem keepsLines : LineSource.KeepsLines ByteLines (fun _ => True) kind :=
  ⟨fun r _ => ⟨r.failsOnly_readLine errors, trivial⟩, fun r _ => ⟨r.failsOnly_readLine errors, trivial⟩⟩

end ByteLines

namespace FileSetLines

def OpensFiles (kind : QueryError → Prop) (s : FileSetLines) : Prop :=
  ∀ file, FailsOnly kind (openFile s.layout.cipher file)

/-- A file is opened unless its cipher makes no filter. -/
theorem failsOnly_openFile {cipher : Option Cipher} (filters : ∀ c ∈ cipher, FailsOnly kind c.newFilter)
    (file : SetFile) : FailsOnly kind (openFile cipher file) := by
  unfold openFile
  split
  · exact .ok _
  · exact (filters _ rfl).map _
  · refine FailsOnly.map _ ?_
    unfold Cipher.decryptFile
    split
    · exact .ok _
    · exact (filters _ rfl).bind fun _ _ => .ok _

/-- The top of a later file is dropped line by line, and a line that is read too early is the last one. -/
theorem keeps_skipTop {good : ByteLines → Prop} (lines : LineSource.KeepsLines ByteLines good kind)
    (o : FileSetLayout) {r : ByteLines} (start : good r) :
    Keeps good kind (skipTop o r) ∧ ∀ line, (skipTop o r).1 = .ok (some line) →
      ∃ r₀, good r₀ ∧ LineSource.readLine r₀ = (.ok (some line), (skipTop o r).2) := by
  have leading := LineSource.keeps_skip lines o.skipLeadingLines start
  unfold skipTop
  generalize LineSource.skip o.skipLeadingLines r = step at leading ⊢
  obtain ⟨result, r⟩ := step
  rcases result with e | _
  · exact ⟨⟨leading.1.passOn, leading.2⟩, by simp⟩
  · simp only
    split
    · have data := LineSource.keeps_skip lines o.linesToSkip leading.2
      generalize LineSource.skip o.linesToSkip r = step at data ⊢
      obtain ⟨result, r⟩ := step
      rcases result with e | _
      · exact ⟨⟨data.1.passOn, data.2⟩, by simp⟩
      · exact ⟨LineSource.keeps_readAfterPreamble lines _ _ data.2,
          fun _ => LineSource.exists_line_of_readAfterPreamble lines _ _ data.2⟩
    · have header := LineSource.keeps_readAfterPreamble lines o.commentChar (r.size + 1) leading.2
      generalize LineSource.readAfterPreamble o.commentChar (r.size + 1) r = step at header ⊢
      obtain ⟨result, r⟩ := step
      rcases result with e | _
      · exact ⟨header, by simp⟩
      · have data := LineSource.keeps_skip lines o.linesToSkip header.2
        simp only
        generalize LineSource.skip o.linesToSkip r = step at data ⊢
        obtain ⟨result, r⟩ := step
        rcases result with e | _
        · exact ⟨⟨data.1.passOn, data.2⟩, by simp⟩
        · exact ⟨⟨.ok none, data.2⟩, by simp⟩

variable (errors : ReadingErrors kind)

include errors

theorem keeps_openNext {s : FileSetLines} (opens : s.OpensFiles kind) :
    Keeps (OpensFiles kind) kind s.openNext := by
  unfold openNext
  split
  · exact ⟨.ok false, opens⟩
  · rename_i file files _
    have opened := opens file
    simp only
    split
    · rename_i e failed
      exact ⟨(failed ▸ opened).passOn, opens⟩
    · rename_i r _
      have top : FailsOnly kind
          (if s.openedAny then skipTop s.layout r else (.ok none, r) :
            Reading ByteLines (Option String)).1 := by
        split
        · exact (keeps_skipTop (ByteLines.keepsLines errors) s.layout trivial).1.1
        · exact .ok none
      generalize (if s.openedAny then skipTop s.layout r else (.ok none, r) :
        Reading ByteLines (Option String)) = step at top ⊢
      obtain ⟨result, r⟩ := step
      rcases result with e | pending
      · exact ⟨top.passOn, opens⟩
      · exact ⟨.ok true, opens⟩

theorem keeps_readFrom (fuel : Nat) {s : FileSetLines} (opens : s.OpensFiles kind) :
    Keeps (OpensFiles kind) kind (readFrom fuel s) := by
  induction fuel generalizing s with
  | zero => exact ⟨.ok none, opens⟩
  | succ fuel ih =>
    have opened : Keeps (OpensFiles kind) kind
        (if s.current.isSome then (.ok true, s) else s.openNext : Reading FileSetLines Bool) := by
      split
      · exact ⟨.ok true, opens⟩
      · exact keeps_openNext errors opens
    rw [readFrom]
    generalize (if s.current.isSome then (.ok true, s) else s.openNext :
      Reading FileSetLines Bool) = step at opened ⊢
    obtain ⟨result, s⟩ := step
    obtain ⟨fails, opens⟩ := opened
    rcases result with e | _ | _
    · exact ⟨fails.passOn, opens⟩
    · exact ⟨.ok none, opens⟩
    · simp only
      split
      · exact ⟨.ok _, opens⟩
      · exact ⟨.ok none, opens⟩
      · rename_i r _ _
        have line := r.failsOnly_readLine errors
        generalize r.readLine = step at line ⊢
        obtain ⟨result, r⟩ := step
        rcases result with e | _ | line
        · exact ⟨line, opens⟩
        · exact ih opens
        · exact ⟨.ok _, opens⟩

theorem keepsLines : LineSource.KeepsLines FileSetLines (OpensFiles kind) kind := by
  constructor
  · intro s opens
    change Keeps (OpensFiles kind) kind s.readLine
    unfold readLine
    split
    · exact ⟨.error (errors.io _), opens⟩
    · exact keeps_readFrom errors _ opens
  · intro s opens
    change Keeps (OpensFiles kind) kind s.readContinuation
    unfold readContinuation
    split
    · exact ⟨.error (errors.io _), opens⟩
    · split
      · exact ⟨.ok none, opens⟩
      · exact ⟨ByteLines.failsOnly_readLine errors _, opens⟩

end FileSetLines

section

variable {ρ : Type} [LineSource ρ] {good : ρ → Prop} (errors : ReadingErrors kind)
  (lines : LineSource.KeepsLines ρ good kind)

include errors lines

theorem Delimiters.keeps_continueRecord (d : Delimiters) (line : String) (number : Nat)
    (trim : Bool) (fuel position : Nat) (p : Progress) {r : ρ} (start : good r) :
    Keeps good kind (d.continueRecord line number trim fuel position p r) := by
  induction fuel generalizing position p r with
  | zero => exact ⟨.error (errors.quotes _ rfl), start⟩
  | succ fuel ih =>
    have next := lines.readContinuation r start
    rw [continueRecord]
    generalize LineSource.readContinuation r = step at next ⊢
    obtain ⟨result, r⟩ := step
    rcases result with e | _ | text
    · exact ⟨next.1.passOn, next.2⟩
    · exact ⟨.error (errors.quotes _ rfl), next.2⟩
    · simp only
      split
      · exact ⟨.error (errors.quotes _ rfl), next.2⟩
      · split
        · exact ih _ _ next.2
        · exact ⟨.ok _, next.2⟩

theorem Splitting.keeps_split (s : Splitting) (line : String) {r : ρ} (start : good r) (trim : Bool) :
    Keeps good kind (s.split line r trim) := by
  cases s with
  | fixedWidth w => exact ⟨.ok _, start⟩
  | delimited d =>
    change Keeps good kind (d.tokenizeRecord line r trim)
    unfold Delimiters.tokenizeRecord
    simp only
    split
    · exact ⟨.error (errors.quotes _ rfl), start⟩
    · split
      · exact Delimiters.keeps_continueRecord errors lines d line _ trim _ _ _ start
      · exact ⟨.ok _, start⟩

theorem TextLayout.keeps_nextRecord (o : TextLayout) (width : Option Nat) (trim : Bool)
    (fuel : Nat) (preamble : Bool) {r : ρ} (start : good r) :
    FailsOnly kind (o.nextRecord width trim fuel preamble r).1 ∧
      good (o.nextRecord width trim fuel preamble r).2.2 := by
  induction fuel generalizing preamble r with
  | zero => exact ⟨.ok none, start⟩
  | succ fuel ih =>
    have first := lines.readLine r start
    rw [nextRecord]
    generalize LineSource.readLine r = step at first ⊢
    obtain ⟨result, r⟩ := step
    rcases result with e | _ | line
    · exact ⟨first.1.passOn, first.2⟩
    · exact ⟨.ok none, first.2⟩
    · have fields := Splitting.keeps_split errors lines o.splitting line first.2 trim
      simp only
      split
      · exact ih true first.2
      · generalize o.splitting.split line r trim = step at fields ⊢
        obtain ⟨result, r⟩ := step
        cases result with
        | ok found =>
          simp only
          split
          · exact ⟨.ok _, fields.2⟩
          · exact ih false fields.2
        | error e =>
          simp only
          split
          · exact ih false fields.2
          · exact ⟨fields.1.passOn, fields.2⟩

/-- A record has been split off from a line that was read where the property held. -/
theorem TextLayout.exists_line_of_nextRecord (o : TextLayout) (width : Option Nat) (trim : Bool)
    (fuel : Nat) (preamble : Bool) {r : ρ} (start : good r) {fields : List String}
    (found : (o.nextRecord width trim fuel preamble r).1 = .ok (some fields)) :
    ∃ (line : String) (r₀ r₁ : ρ), good r₀ ∧ LineSource.readLine r₀ = (.ok (some line), r₁) ∧
      o.splitting.split line r₁ trim =
        (.ok fields, (o.nextRecord width trim fuel preamble r).2.2) := by
  induction fuel generalizing preamble r with
  | zero => cases found
  | succ fuel ih =>
    have first := (lines.readLine r start).2
    rcases reading : LineSource.readLine r with ⟨e | _ | line, r'⟩
    · simp only [nextRecord, reading] at found
      cases found
    · simp only [nextRecord, reading] at found
      cases found
    · rw [reading] at first
      have below := (Splitting.keeps_split errors lines o.splitting line first trim).2
      rcases split : o.splitting.split line r' trim with ⟨e | fields', s⟩
      · rw [split] at below
        simp only [nextRecord, reading, split] at found ⊢
        split at found
        · rename_i comment
          rw [if_pos comment]
          exact ih true first found
        · rename_i noComment
          rw [if_neg noComment]
          split at found
          · rename_i ignored
            rw [if_pos ignored]
            exact ih false below found
          · cases found
      · rw [split] at below
        simp only [nextRecord, reading, split] at found ⊢
        split at found
        · rename_i comment
          rw [if_pos comment]
          exact ih true first found
        · rename_i noComment
          rw [if_neg noComment]
          split at found
          · rename_i kept
            rw [if_pos kept]
            cases found
            exact ⟨line, r, r', start, reading, split⟩
          · rename_i ignored
            rw [if_neg ignored]
            exact ih false below found

end

theorem Delimiters.failsOnly_tokenize (errors : ReadingErrors kind) (d : Delimiters) (line : String)
    (trim : Bool) : FailsOnly kind (d.tokenize line trim) := by
  unfold tokenize
  split
  · exact .error (errors.quotes _ rfl)
  · split
    · exact .error (errors.quotes _ rfl)
    · exact .ok _

namespace TextTable

variable {ρ : Type} [LineSource ρ] {good : ρ → Prop} (errors : ReadingErrors kind)
  (lines : LineSource.KeepsLines ρ good kind) (duplicates : ∀ name, kind (.duplicateColumn name))

include errors lines duplicates

omit errors lines in
theorem failsOnly_settle (o : TextLayout) (names : List String) : FailsOnly kind (o.settle names) := by
  unfold TextLayout.settle
  dsimp only
  split
  · exact .error (duplicates _)
  · exact .ok _

theorem yields_openBare (o : TextLayout) {r : ρ} (start : good r) :
    Yields (fun t : TextTable ρ => good t.lines) kind (openBare o r) := by
  have skipped := LineSource.keeps_skip lines o.skipLeadingDataLines start
  unfold openBare
  generalize LineSource.skip o.skipLeadingDataLines r = step at skipped ⊢
  obtain ⟨result, r⟩ := step
  refine skipped.1.yields.bind fun _ _ => ?_
  cases configured : o.configured with
  | some names =>
    obtain ⟨line, -, rfl⟩ := Option.map_eq_some_iff.mp configured
    refine (Delimiters.failsOnly_tokenize errors _ line _).yields.bind fun names _ => ?_
    exact (failsOnly_settle duplicates o names).yields.bind fun columns _ => .ok skipped.2
  | none =>
    have first := TextLayout.keeps_nextRecord errors lines o none false (LineSource.remaining r + 1)
      o.commentChar.isSome skipped.2
    unfold TextLayout.readRecord
    generalize o.nextRecord none false (LineSource.remaining r + 1) o.commentChar.isSome r = step
      at first ⊢
    obtain ⟨result, preamble, r⟩ := step
    refine first.1.yields.bind fun pending _ => ?_
    exact (failsOnly_settle duplicates o _).yields.bind fun columns _ => .ok first.2

theorem yields_openHeaded (o : TextLayout) {r : ρ} (start : good r) :
    Yields (fun t : TextTable ρ => good t.lines) kind (openHeaded o r) := by
  have header := TextLayout.keeps_nextRecord errors lines o none o.trimHeaders
    (LineSource.remaining r + 1) o.commentChar.isSome start
  unfold openHeaded TextLayout.readRecord
  generalize o.nextRecord none o.trimHeaders (LineSource.remaining r + 1) o.commentChar.isSome r = step
    at header ⊢
  obtain ⟨result, preamble, r⟩ := step
  refine header.1.yields.bind fun found _ => ?_
  have skipped := LineSource.keeps_skip lines o.skipLeadingDataLines header.2
  dsimp only
  generalize LineSource.skip o.skipLeadingDataLines r = step at skipped ⊢
  obtain ⟨result, r⟩ := step
  refine skipped.1.yields.bind fun _ _ => ?_
  have names : FailsOnly kind (o.configured.getD (.ok (found.getD []))) := by
    cases configured : o.configured with
    | none => exact .ok _
    | some names =>
      obtain ⟨line, -, rfl⟩ := Option.map_eq_some_iff.mp configured
      exact Delimiters.failsOnly_tokenize errors _ line _
  refine names.yields.bind fun names _ => ?_
  exact (failsOnly_settle duplicates o names).yields.bind fun columns _ => .ok skipped.2

theorem yields_ofLines (o : TextLayout) {r : ρ} (start : good r) :
    Yields (fun t : TextTable ρ => good t.lines) kind (ofLines o r) := by
  have skipped := LineSource.keeps_skip lines o.skipLeadingLines start
  unfold ofLines
  generalize LineSource.skip o.skipLeadingLines r = step at skipped ⊢
  obtain ⟨result, r⟩ := step
  refine skipped.1.yields.bind fun _ _ => ?_
  split
  · exact yields_openBare errors lines duplicates o skipped.2
  · exact yields_openHeaded errors lines duplicates o skipped.2

end TextTable

def RecordSource.KeepsRecords (σ : Type) [RecordSource σ] (good : σ → Prop)
    (kind : QueryError → Prop) : Prop :=
  ∀ s : σ, good s → Keeps good kind (next s)

theorem RecordSource.KeepsRecords.mono {σ : Type} [RecordSource σ] {good : σ → Prop}
    {kind' : QueryError → Prop} (table : KeepsRecords σ good kind) (wider : ∀ e, kind e → kind' e) :
    KeepsRecords σ good kind' :=
  fun s start => ⟨(table s start).1.mono wider, (table s start).2⟩

/-- The error that stops the reading of a table with the property is of the kind. -/
theorem RecordSource.KeepsRecords.of_reads {σ : Type} [RecordSource σ] {good : σ → Prop}
    (table : KeepsRecords σ good kind) {s : σ} (start : good s) {states : List σ}
    {stop : Option QueryError} (reads : Reads s states stop) {e : QueryError} (fails : stop = some e) :
    kind e := by
  induction reads with
  | ended _ => cases fails
  | failed result =>
    cases fails
    exact (table _ start).1 e result
  | record _ _ ih => exact ih (table _ start).2 fails

theorem TextTable.keepsRecords {ρ : Type} [LineSource ρ] {good : ρ → Prop} (errors : ReadingErrors kind)
    (lines : LineSource.KeepsLines ρ good kind) :
    RecordSource.KeepsRecords (TextTable ρ) (fun t => good t.lines) kind := by
  intro t start
  change Keeps _ kind t.next
  unfold next
  split
  · exact ⟨.ok false, start⟩
  · split
    · exact ⟨.ok true, start⟩
    · have record := TextLayout.keeps_nextRecord errors lines t.layout (some t.columns.length) false
        (LineSource.remaining t.lines + 1) t.preamble start
      unfold TextLayout.readRecord
      generalize t.layout.nextRecord (some t.columns.length) false
        (LineSource.remaining t.lines + 1) t.preamble t.lines = step at record ⊢
      obtain ⟨result, preamble, r⟩ := step
      rcases result with e | _ | fields
      · exact ⟨record.1.passOn, record.2⟩
      · exact ⟨.ok false, record.2⟩
      · exact ⟨.ok true, record.2⟩

theorem MemoryTable.keepsRecords : RecordSource.KeepsRecords MemoryTable (fun _ => True) kind := by
  intro t _
  change Keeps _ kind t.next
  unfold next
  split
  · exact ⟨.ok true, trivial⟩
  · exact ⟨.ok false, trivial⟩

section

variable {σ τ : Type} [RecordSource σ] [RecordSource τ] {good : σ → Prop} {good' : τ → Prop}
  (table : RecordSource.KeepsRecords σ good kind)

include table

theorem TaggedTable.keepsRecords :
    RecordSource.KeepsRecords (TaggedTable σ) (fun t => good t.inner) kind := by
  intro t start
  change Keeps _ kind t.next
  refine ⟨?_, ?_⟩
  · rw [t.result_next]
    exact (table t.inner start).1
  · change good t.next.2.inner
    rw [t.inner_next]
    exact (table t.inner start).2

theorem MeltedTable.keeps_loadData {t : MeltedTable σ} (start : good t.inner) :
    FailsOnly kind t.loadData.1 ∧ good t.loadData.2.inner := by
  have inner := table t.inner start
  unfold loadData
  generalize RecordSource.next t.inner = step at inner ⊢
  obtain ⟨result, s⟩ := step
  rcases result with e | _ | _
  · exact inner
  · exact ⟨.ok false, inner.2⟩
  · exact ⟨.ok true, inner.2⟩

theorem MeltedTable.keepsRecords :
    RecordSource.KeepsRecords (MeltedTable σ) (fun t => good t.inner) kind := by
  intro t start
  change Keeps _ kind t.next
  unfold next
  split
  · exact ⟨.ok false, start⟩
  · have current : FailsOnly kind (if t.keyColumns ≤ t.position then t.loadData else (.ok true, t)).1 ∧
        good (if t.keyColumns ≤ t.position then t.loadData else (.ok true, t)).2.inner := by
      split
      · exact keeps_loadData table start
      · exact ⟨.ok true, start⟩
    generalize (if t.keyColumns ≤ t.position then t.loadData else (.ok true, t)) = step at current ⊢
    obtain ⟨result, t⟩ := step
    rcases result with e | _ | _
    · exact current
    · exact ⟨.ok false, current.2⟩
    · exact ⟨.ok true, current.2⟩

theorem MeltedTable.yields_readKeys (truncated : ∀ wanted found, kind (.truncatedBlock wanted found))
    (wanted fieldsToSkip n found : Nat) {s : σ} (start : good s) :
    Yields (fun keys => good keys.2) kind (readKeys wanted fieldsToSkip n found s) := by
  induction n generalizing found s with
  | zero => exact .ok start
  | succ n ih =>
    have first := table s start
    rw [readKeys]
    generalize RecordSource.next s = step at first ⊢
    obtain ⟨result, s⟩ := step
    refine first.1.yields.bind fun more _ => ?_
    cases more with
    | false => exact .error (truncated _ _)
    | true => exact (ih (found + 1) first.2).bind fun keys rest => .ok rest

/-- Melting a table can also fail for key rows that are missing and for a header that is too short. -/
theorem MeltedTable.yields_ofTable (truncated : ∀ wanted found, kind (.truncatedBlock wanted found))
    {s : σ} (start : good s) (keyLines fieldsToSkip : Nat) (header : Option (List String))
    (short : ∀ names, header = some names → names.length < keyLines + 1 →
      kind (.invalidConfiguration (.transposedHeader keyLines names.length))) :
    Yields (fun t : MeltedTable σ => good t.inner) kind (ofTable s keyLines fieldsToSkip header) := by
  unfold ofTable
  refine (yields_readKeys table truncated keyLines fieldsToSkip keyLines 0 start).bind ?_
  rintro ⟨keys, inner⟩ rest
  cases header with
  | some names =>
    dsimp only
    split
    · rename_i few
      exact .error (short names rfl few)
    · exact .ok rest
  | none =>
    have loaded := keeps_loadData table (t :=
      { inner, keys, keyColumns := (keys.head?.map List.length).getD 0,
        position := (keys.head?.map List.length).getD 0 }) rest
    exact loaded.1.yields.bind fun more _ => .ok loaded.2

theorem RecordSource.KeepsRecords.sum (other : RecordSource.KeepsRecords τ good' kind) :
    RecordSource.KeepsRecords (σ ⊕ τ) (Sum.elim good good') kind := by
  rintro (s | t) start
  · exact table s start
  · exact other t start

end

namespace TableShape

def OpensFiles (kind : QueryError → Prop) : (shape : TableShape) → shape.Source → Prop
  | memory, _ | text, _ => True
  | fileSet, t => FileSetLines.OpensFiles kind (TextTable.lines t)
  | tagged inner, t => OpensFiles kind inner (TaggedTable.inner t)
  | melted inner, t => OpensFiles kind inner (MeltedTable.inner t)
  | choice first second, t => Sum.elim (OpensFiles kind first) (OpensFiles kind second) t

/-- A table of the library is read with errors of its files and quotes, and of the opening of files. -/
theorem keepsRecords (errors : ReadingErrors kind) (shape : TableShape) :
    RecordSource.KeepsRecords shape.Source (OpensFiles kind shape) kind := by
  induction shape with
  | memory => exact MemoryTable.keepsRecords
  | text => exact TextTable.keepsRecords errors (ByteLines.keepsLines errors)
  | fileSet => exact TextTable.keepsRecords errors (FileSetLines.keepsLines errors)
  | tagged inner ih => exact TaggedTable.keepsRecords ih
  | melted inner ih => exact MeltedTable.keepsRecords ih
  | choice first second ih ih' => exact ih.sum ih'

end TableShape

end PlainTables
