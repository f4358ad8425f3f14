import PlainTables.Proofs.Records.FileSetRun

/-!
# Key rows of the files of a set

The key rows of the first file are read as records, and as many lines are dropped from a later file. If
each key row is on one line and no comments are next to them, this leaves the same records below them.
-/

namespace PlainTables

open ByteLines FileSetLines

theorem exists_forall₂ {α β : Type} {P : α → β → Prop} {items : List α}
    (each : ∀ a ∈ items, ∃ b, P a b) : ∃ results, List.Forall₂ P items results := by
  induction items with
  | nil => exact ⟨[], .nil⟩
  | cons a items ih =>
    obtain ⟨b, here⟩ := each a List.mem_cons_self
    obtain ⟨results, rest⟩ := ih fun a mem => each a (List.mem_cons_of_mem _ mem)
    exact ⟨b :: results, .cons here rest⟩

namespace TextLayout

variable {o : TextLayout} {bytes : List UInt8} {k i : Nat}
  {own : Outcome (List String × ByteLines)}

def withKeys (o : TextLayout) (k : Nat) : TextLayout :=
  { o with skipLeadingDataLines := o.skipLeadingDataLines + k }

section

variable {ρ : Type} [LineSource ρ]

theorem readRecord_withKeys (o : TextLayout) (k : Nat) (width : Option Nat) (trim preamble : Bool)
    (r : ρ) :
    (o.withKeys k).readRecord width trim preamble r = o.readRecord width trim preamble r := by
  unfold readRecord
  generalize LineSource.remaining r + 1 = fuel
  induction fuel generalizing preamble r with
  | zero => rfl
  | succ fuel ih =>
    rw [nextRecord, nextRecord]
    simp only [ih]
    rfl

theorem Run.withKeys {preamble : Bool} {r : ρ} {outcome : Outcome (List String × ρ)}
    (run : Run o preamble r outcome) (k : Nat) : Run (o.withKeys k) preamble r outcome := by
  induction run with
  | ended reading atEnd => exact .ended ((o.readRecord_withKeys k _ _ _ _).trans reading) atEnd
  | failed reading => exact .failed ((o.readRecord_withKeys k _ _ _ _).trans reading)
  | record reading _ ih => exact .record ((o.readRecord_withKeys k _ _ _ _).trans reading) ih

theorem Run.of_withKeys {preamble : Bool} {r : ρ} {outcome : Outcome (List String × ρ)}
    (run : Run (o.withKeys k) preamble r outcome) : Run o preamble r outcome := by
  induction run with
  | ended reading atEnd => exact .ended ((o.readRecord_withKeys k _ _ _ _).symm.trans reading) atEnd
  | failed reading => exact .failed ((o.readRecord_withKeys k _ _ _ _).symm.trans reading)
  | record reading _ ih => exact .record ((o.readRecord_withKeys k _ _ _ _).symm.trans reading) ih

end

/-- Above a line that is not part of a preamble it is of no importance whether comments are possible. -/
theorem Run.of_notPreamble (strict : o.ignoreUnparseableLines = false) {preamble possible : Bool}
    (noComment : ∀ line ∈ (linesOf bytes).head?, LineSource.isPreamble o.commentChar line = false)
    (run : Run o preamble (atBytes bytes i) own) : Run o possible (atBytes bytes i) own := by
  obtain ⟨rest, j, reading, _⟩ := readLine_eq_head? bytes i
  cases lines : linesOf bytes with
  | nil =>
    obtain rfl := eq_nil_of_linesOf lines
    exact run.of_end
  | cons line more =>
    rw [lines] at noComment reading
    refine run.congr ?_
    rw [readRecord_eq strict, readRecord_eq strict none false preamble, reading]
    simp only [List.head?_cons, noComment line rfl, Bool.and_false, Bool.false_eq_true, if_false]

theorem run_of_keys (strict : o.ignoreUnparseableLines = false)
    (keys : ∀ line ∈ (linesOf bytes).take k, (o.splitting.split line (ofBytes []) false).1.isOk)
    (run : Run o false (atBytes bytes i) own) (enough : k ≤ own.1.length) :
    ∃ rest j, LineSource.skip k (atBytes bytes i) = (.ok (), atBytes rest j) ∧
      linesOf rest = (linesOf bytes).drop k ∧ Run o false (atBytes rest j) (own.drop k) := by
  induction k generalizing bytes i own with
  | zero => exact ⟨bytes, i, rfl, rfl, run⟩
  | succ k ih =>
    cases run with
    | ended => cases enough
    | failed => cases enough
    | @record _ _ r fields records stop record run =>
      obtain ⟨next, j, reading, left⟩ := readLine_eq_head? bytes i
      rw [readRecord_eq strict, reading] at record
      cases lines : linesOf bytes with
      | nil =>
        rw [lines] at record
        cases record
      | cons line more =>
        rw [lines] at keys reading left record
        obtain ⟨names, split⟩ := Splitting.exists_of_oneLine (keys line List.mem_cons_self)
        simp only [List.head?_cons, Bool.false_and, Bool.false_eq_true, if_false, recordFrom,
          Splitting.split_of_oneLine split] at record
        cases record
        rw [List.tail_cons] at left
        obtain ⟨rest, j', skipped, below, run⟩ := ih
          (fun key mem => keys key (List.mem_cons_of_mem _ (left ▸ mem))) run
          (Nat.le_of_succ_le_succ enough)
        refine ⟨rest, j', ?_, ?_, run⟩
        · rw [LineSource.skip, reading]
          exact skipped
        · rw [below, left, List.drop_succ_cons]

/-- Every key row of a file is on one line, and so is the header, if there is one. If there is none, no
comments are above the key rows, and none follow them. -/
structure KeysOnLines (o : TextLayout) (k : Nat) (bytes : List UInt8) : Prop where
  header : o.HeaderOnOneLine bytes
  keys : ∀ line ∈ (o.belowTop bytes).take k, (o.splitting.split line (ofBytes []) false).1.isOk
  above : o.suppressHeaders = true → ∀ line ∈ (o.belowTop bytes).head?,
    LineSource.isPreamble o.commentChar line = false
  under : o.suppressHeaders = true → ∀ line ∈ ((o.belowTop bytes).drop k).head?,
    LineSource.isPreamble o.commentChar line = false

def HasRecords (o : TextLayout) (bytes : List UInt8) (own : Outcome (List String × ByteLines)) :
    Prop :=
  ∃ header preamble r, Top o (ofBytes bytes) header preamble r ∧ o.AllowsPreamble preamble ∧
    Run o preamble r own

/-- The records below the key rows are those of the text with as many lines more to skip. -/
theorem HasRecords.withKeys (strict : o.ignoreUnparseableLines = false)
    (keyed : o.KeysOnLines k bytes) (records : o.HasRecords bytes own)
    (enough : k ≤ own.1.length) : (o.withKeys k).HasRecords bytes (own.drop k) := by
  obtain ⟨header, preamble, r, top, allowed, run⟩ := records
  obtain ⟨_, _, rest, i, top', lines⟩ := exists_top strict keyed.header
  obtain ⟨rfl, rfl, rfl⟩ := top.unique top'
  have keys := keyed.keys
  rw [← lines] at keys
  -- Below a header no comments are possible. Without headers the lines of the keys are skipped above the
  -- comments of a preamble, but there are none next to them.
  cases headers : o.suppressHeaders with
  | false =>
    obtain rfl := allowed headers
    obtain ⟨c, j, skipped, _, below⟩ := run_of_keys strict keys run enough
    generalize possible : false = preamble at top
    cases top with
    | bare bare => exact absurd (headers.symm.trans bare) Bool.false_ne_true
    | headed _ leading reading above =>
      have reading' := (o.readRecord_withKeys k _ _ _ _).trans reading
      refine ⟨_, _, atBytes c j,
        .headed headers leading reading' ((skip_add above k).trans skipped), fun _ => possible.symm, ?_⟩
      rw [← possible]
      exact below.withKeys k
  | true =>
    have above := keyed.above headers
    have under := keyed.under headers
    rw [← lines] at above under
    obtain ⟨c, j, skipped, left, below⟩ :=
      run_of_keys strict keys (run.of_notPreamble strict above) enough
    rw [← left] at under
    cases top with
    | headed headed => exact absurd (headed.symm.trans headers) Bool.false_ne_true
    | bare _ leading above =>
      exact ⟨_, _, atBytes c j, .bare headers leading ((skip_add above k).trans skipped),
        fun headed => absurd (headed.symm.trans headers) Bool.false_ne_true,
        (below.of_notPreamble strict under).withKeys k⟩

variable {cipher : Option Cipher} {l : FileSetLayout} {file : SetFile} {files : List SetFile}
  {values : List String}

theorem columnsOf_placed (o : TextLayout) (l : FileSetLayout) (files : List SetFile)
    (values header : List String) (some : own.1 ≠ [])
    (next : Outcome (List String × FileSetLines)) :
    o.columnsOf header ((placed l files values own).followedBy next) = o.columnsOf header own := by
  obtain ⟨_ | ⟨⟨fields, r⟩, records⟩, stop⟩ := own
  · exact absurd rfl some
  · rw [placed, Outcome.map, List.map_cons, Outcome.cons_followedBy]
    exact columnsOf_cons ..

theorem HasRecords.run_later (strict : o.ignoreUnparseableLines = false)
    (oneLine : o.HeaderOnOneLine bytes)
    (opening : FileSetLines.openFile cipher file = .ok (ofBytes bytes))
    (records : o.HasRecords bytes own) {next : Outcome (List String × FileSetLines)}
    (others : ∀ inSet, o.AllowsPreamble inSet →
      Run o inSet (before (o.laterFiles cipher) files file.values true) next)
    (inSet : Bool) (allowed : o.AllowsPreamble inSet) :
    Run o inSet (before (o.laterFiles cipher) (file :: files) values true)
      ((placed (o.laterFiles cipher) files file.values own).followedBy next) := by
  obtain ⟨header, preamble, r, top, _, run⟩ := records
  obtain ⟨_, _, _, top', later⟩ := TextLayout.run_later files strict oneLine opening
  obtain ⟨rfl, rfl, rfl⟩ := top.unique top'
  exact later own run next values others inSet allowed

theorem run_records (strict : o.ignoreUnparseableLines = false) {text : SetFile → List UInt8}
    {outcomes : List (Outcome (List (Option String) × List String))}
    (plain : ∀ file ∈ files, FileSetLines.openFile cipher file = .ok (ofBytes (text file)))
    (oneLine : ∀ file ∈ files, o.HeaderOnOneLine (text file))
    (each : List.Forall₂ (fun file outcome => ∃ own, o.HasRecords (text file) own ∧
      own.map (seenIn file.values) = outcome) files outcomes) :
    ∃ whole, (∀ values inSet, o.AllowsPreamble inSet →
        Run o inSet (before (o.laterFiles cipher) files values true) whole) ∧
      whole.map seen = Outcome.joined outcomes := by
  induction each with
  | nil => exact ⟨([], none), fun values inSet _ => .ended rfl rfl, rfl⟩
  | @cons file outcome files outcomes own _ ih =>
    obtain ⟨own, records, rfl⟩ := own
    obtain ⟨whole, run, same⟩ := ih (fun file mem => plain file (List.mem_cons_of_mem _ mem))
      (fun file mem => oneLine file (List.mem_cons_of_mem _ mem))
    refine ⟨_, fun values => records.run_later strict (oneLine file List.mem_cons_self)
      (plain file List.mem_cons_self) (run file.values), ?_⟩
    rw [Outcome.map_followedBy, same, map_seen_placed]
    rfl

theorem skip_alone {s : FileSetLines}
    (same : LineSource.readLine s = LineSource.readLine (inside l [] values (atBytes bytes i)))
    (n : Nat) :
    n ≤ (linesOf bytes).length ∨
      ∃ s', LineSource.skip n s = (.ok (), s') ∧ LineSource.readLine s' = (.ok none, s') := by
  induction n generalizing s bytes i with
  | zero => exact .inl (Nat.zero_le _)
  | succ n ih =>
    obtain ⟨next, j, reading, left⟩ := readLine_eq_head? bytes i
    have unfolded : (atBytes bytes i).readLine = _ := reading
    rw [readLine_inside, unfolded] at same
    rw [LineSource.skip, same]
    cases lines : linesOf bytes with
    | nil => exact .inr ⟨_, rfl, rfl⟩
    | cons line more =>
      rw [lines, List.tail_cons] at left
      rw [List.length_cons, ← left]
      exact (ih (s := inside l [] values (atBytes next j)) rfl).imp_left Nat.succ_le_succ

theorem next_of_top_at_end {ρ : Type} [LineSource ρ] (strict : o.ignoreUnparseableLines = false)
    {header : List String} {preamble : Bool} {r s : ρ} (top : Top o r header preamble s)
    (atEnd : LineSource.readLine s = (.ok none, s)) {t : TextTable ρ}
    (opened : TextTable.ofLines o r = .ok t) : (RecordSource.next t).1 = .ok false := by
  have run : Run o preamble s ([], none) := .ended (o.readRecord_of_end none false preamble atEnd) atEnd
  obtain ⟨table, opening, gives⟩ := TextTable.ofLines_of_top strict top run
  rw [opening] at opened
  obtain ⟨columns, _, rfl⟩ := exists_of_map_eq_ok opened
  obtain ⟨states, reads, none⟩ := (gives columns).2
  rw [List.map_eq_nil_iff] at none
  subst none
  cases reads with
  | ended atEnd => exact atEnd

theorem reachesRecords_of_record (strict : o.ignoreUnparseableLines = false)
    (opening : FileSetLines.openFile l.cipher file = .ok (ofBytes bytes))
    {t : TextTable FileSetLines} (opened : TextTable.ofLines o (before l [file] [] false) = .ok t)
    (record : (RecordSource.next t).1 = .ok true) : o.ReachesRecords bytes := by
  have noRecord {header : List String} {preamble : Bool} {s : FileSetLines}
      (top : Top o (before l [file] [] false) header preamble s)
      (atEnd : LineSource.readLine s = (.ok none, s)) : o.ReachesRecords bytes := by
    have none := next_of_top_at_end strict top atEnd opened
    rw [record] at none
    cases none
  -- A file that ends in its top leaves its set at the end, where there is no record.
  have start := readLine_before_first (o := l) [] [] opening
  have leading := skip_alone start o.skipLeadingLines
  cases headers : o.suppressHeaders with
  | true =>
    obtain enough | ⟨s, skipped, atEnd⟩ := leading
    · obtain ⟨b, i, s, _, left, skipped, same⟩ := skip_inside o.skipLeadingLines start enough
      obtain enough' | ⟨u, skipped', atEnd⟩ := skip_alone same o.skipLeadingDataLines
      · rw [left, List.length_drop] at enough'
        rw [ReachesRecords, if_pos headers]
        omega
      · exact noRecord (.bare headers skipped skipped') atEnd
    · exact noRecord (.bare headers skipped (LineSource.skip_of_end atEnd _)) atEnd
  | false =>
    obtain enough | ⟨s, skipped, atEnd⟩ := leading
    · obtain ⟨b, i, s, skipped, left, skippedSet, same⟩ :=
        skip_inside o.skipLeadingLines start enough
      have inSet := (readRecord_congr o none o.trimHeaders o.commentChar.isSome same).trans
        (o.readRecord_inside none o.trimHeaders o.commentChar.isSome _)
      obtain ⟨lines, shows, _⟩ := o.leaves_recordIn none o.trimHeaders o.commentChar.isSome
        (⟨b, rfl, rfl⟩ : (atBytes b i).Shows (linesOf b))
      rw [recordIn] at shows
      rcases reading : o.readRecord none o.trimHeaders o.commentChar.isSome (atBytes b i) with
        ⟨e | (_ | names), after, r⟩
      · rw [reading] at inSet
        rw [TextTable.ofLines_of_skip skippedSet, headers, TextTable.openHeaded, inSet] at opened
        cases opened
      · have atEnd : LineSource.readLine (before l [] file.values true) =
          (.ok none, before l [] file.values true) := rfl
        rw [reading] at inSet
        exact noRecord (.headed headers skippedSet
          (inSet.trans (o.readRecord_of_end _ _ _ atEnd)) (LineSource.skip_of_end atEnd _)) atEnd
      · rw [reading] at inSet shows
        obtain ⟨c, j, rfl, rfl⟩ := shows.exists_atBytes
        obtain enough' | ⟨u, skipped', atEnd⟩ := skip_alone
          (s := inside l [] file.values (atBytes c j)) rfl o.skipLeadingDataLines
        · rw [ReachesRecords, if_neg (by rw [headers]; exact Bool.false_ne_true)]
          refine ⟨enough, ?_⟩
          have leading : LineSource.skip o.skipLeadingLines (ofBytes bytes) = _ := skipped
          rw [leading, findsHeader, reading]
          exact decide_eq_true enough'
        · exact noRecord (.headed headers skippedSet inSet skipped') atEnd
    · exact noRecord (.headed headers skipped (o.readRecord_of_end _ _ _ atEnd)
        (LineSource.skip_of_end atEnd _)) atEnd

/-- A set that starts with a file gives these records of the file first, below a top with this header. -/
structure StartsWith (o : TextLayout) (l : FileSetLayout) (file : SetFile) (bytes : List UInt8)
    (header : List String) (own : Outcome (List String × ByteLines)) : Prop where
  records : o.HasRecords bytes own
  run : ∀ files next, (∀ possible, o.AllowsPreamble possible →
      Run o possible (before l files file.values true) next) →
    ∃ preamble s, Top o (before l (file :: files) [] false) header preamble s ∧
      Run o preamble s ((placed l files file.values own).followedBy next)

theorem exists_startsWith (strict : o.ignoreUnparseableLines = false)
    (opening : FileSetLines.openFile l.cipher file = .ok (ofBytes bytes))
    (reaches : o.ReachesRecords bytes) : ∃ header own, o.StartsWith l file bytes header own := by
  obtain ⟨header, preamble, r, top, allowed, inSet⟩ := exists_top_first reaches opening
  obtain ⟨own, run⟩ := exists_run strict preamble r
  refine ⟨header, own, ⟨header, preamble, r, top, allowed, run⟩, fun files next others => ?_⟩
  obtain ⟨s, topSet, same⟩ := inSet files
  exact ⟨preamble, s, topSet, run.inSet strict allowed same others⟩

end TextLayout

end PlainTables
