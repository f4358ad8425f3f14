import PlainTables.Proofs.Lines.Directory
import PlainTables.Proofs.Records.CommonLines
import PlainTables.Proofs.Records.FileSet

/-!
# Headers of the files of a set

The table finds the header of the first file as a record: below titles that are ignored, and over
several lines. The set drops one line below the preamble of a later file. If this line is the header,
the set gives the records of its files.
-/

namespace PlainTables

open ByteLines FileSetLines TextLayout

namespace TextTable

variable {ρ : Type} [LineSource ρ] {o : TextLayout} {columns fields : List String}

/-- A table below its header, where no comments are possible. -/
def belowHeader (o : TextLayout) (columns fields : List String) (r : ρ) : TextTable ρ :=
  { lines := r, layout := o, columns, fields, preamble := false }

variable {after : Bool} {r s : ρ}

theorem next_of_failed {e : QueryError}
    (reading : o.readRecord (some columns.length) false false r = (.error e, after, s))
    (fields : List String) : (RecordSource.next (belowHeader o columns fields r)).1 = .error e := by
  simp only [RecordSource.next, TextTable.next, belowHeader, Bool.false_eq_true, if_false, reading]

theorem next_of_ended
    (reading : o.readRecord (some columns.length) false false r = (.ok none, after, s))
    (fields : List String) : (RecordSource.next (belowHeader o columns fields r)).1 = .ok false := by
  simp only [RecordSource.next, TextTable.next, belowHeader, Bool.false_eq_true, if_false, reading]

theorem next_of_record {record : List String}
    (reading : o.readRecord (some columns.length) false false r = (.ok (some record), after, s))
    (fields : List String) :
    RecordSource.next (belowHeader o columns fields r) = (.ok true, belowHeader o columns record s) := by
  obtain rfl := preamble_of_record reading
  simp only [RecordSource.next, TextTable.next, belowHeader, Bool.false_eq_true, if_false, reading]

theorem gives_belowHeader_congr {outcome : Outcome (List String × ρ)}
    (same : o.readRecord (some columns.length) false false r =
      o.readRecord (some columns.length) false false s)
    (gives : RecordSource.Gives shown (belowHeader o columns fields s) outcome)
    (fields' : List String) :
    RecordSource.Gives shown (belowHeader o columns fields' r) outcome := by
  match reading : o.readRecord (some columns.length) false false s with
  | (.error e, after, t) =>
    have failed := next_of_failed (same.trans reading) fields'
    exact gives.congr (failed.trans (next_of_failed reading fields).symm) (by rw [failed]; simp)
  | (.ok none, after, t) =>
    have ended := next_of_ended (same.trans reading) fields'
    exact gives.congr (ended.trans (next_of_ended reading fields).symm) (by rw [ended]; simp)
  | (.ok (some record), after, t) =>
    have found := next_of_record (same.trans reading) fields'
    rw [← next_of_record reading fields] at found
    exact gives.congr (congrArg Prod.fst found) fun _ => congrArg Prod.snd found

variable {l : FileSetLayout} {files : List SetFile} {values : List String}

/-- A file gives its records in a set as well, and then come those of the files after it. -/
theorem gives_inside {t : TextTable ByteLines} {states : List (TextTable ByteLines)}
    {stop : Option QueryError} (reads : RecordSource.Reads t states stop) {r : ByteLines}
    (table : t = belowHeader o columns fields r) {next : Outcome (List String × FileSetLines)}
    (rest : RecordSource.Gives shown
      (belowHeader o columns [] (FileSetLines.before l files values true)) next)
    (fields' : List String) :
    RecordSource.Gives shown (belowHeader o columns fields' (inside l files values r))
      ((placed l files values (states.map shown, stop)).followedBy next) := by
  have inSet : o.readRecord (some columns.length) false false (inside l files values r) = _ :=
    o.readRecord_inside (some columns.length) false false r
  induction reads generalizing r fields fields' with
  | @ended t atEnd =>
    rw [table] at atEnd
    match reading : o.readRecord (some columns.length) false false r with
    | (.error e, after, s) =>
      rw [next_of_failed reading] at atEnd
      cases atEnd
    | (.ok (some record), after, s) =>
      rw [next_of_record reading] at atEnd
      cases atEnd
    | (.ok none, after, s) =>
      have noComments := o.preamble_of_false (some columns.length) false r
      rw [reading] at inSet noComments
      obtain rfl : after = false := noComments
      -- Where the file alone ends, the set goes on with the next record of the files after it.
      exact gives_belowHeader_congr inSet rest fields'
  | @failed t e atError =>
    rw [table] at atError
    match reading : o.readRecord (some columns.length) false false r with
    | (.error e, after, s) =>
      rw [next_of_failed reading] at atError
      cases atError
      rw [reading] at inSet
      exact ⟨[], .failed (next_of_failed inSet fields'), rfl⟩
    | (.ok (some record), after, s) =>
      rw [next_of_record reading] at atError
      cases atError
    | (.ok none, after, s) =>
      rw [next_of_ended reading] at atError
      cases atError
  | @record t states stop atRecord _ ih =>
    rw [table] at atRecord
    match reading : o.readRecord (some columns.length) false false r with
    | (.error e, after, s) =>
      rw [next_of_failed reading] at atRecord
      cases atRecord
    | (.ok none, after, s) =>
      rw [next_of_ended reading] at atRecord
      cases atRecord
    | (.ok (some record), after, s) =>
      rw [reading] at inSet
      have own := next_of_record reading fields
      have found := next_of_record inSet fields'
      have below : (RecordSource.next t).2 = belowHeader o columns record s := by rw [table, own]
      obtain ⟨others, reads, same⟩ := ih below record (o.readRecord_inside _ _ _ _)
      have whole := RecordSource.Reads.record (congrArg Prod.fst found) (by rw [found]; exact reads)
      have first : placed l files values (((RecordSource.next t).2 :: states).map shown, stop) =
          ((record, inside l files values s) ::
            (placed l files values (states.map shown, stop)).1, stop) := by
        rw [table, own]
        rfl
      rw [first, Outcome.cons_followedBy]
      exact ⟨_, whole, by rw [List.map_cons, found]; exact congrArg _ same⟩

end TextTable

namespace TextLayout

variable {o : TextLayout} {bytes : List UInt8}

/-- The line is a header that needs no other line, and not a title that is ignored. -/
def isHeaderLine (o : TextLayout) (line : String) : Bool :=
  match (o.splitting.split line (ofBytes []) o.trimHeaders).1 with
  | .ok names => !o.ignoreUnparseableLines || isPlausible none names
  | .error _ => false

def HeaderOnFirstLine (o : TextLayout) (bytes : List UInt8) : Prop :=
  ∀ line ∈ (o.fromHeader bytes).head?, o.isHeaderLine line

instance (o : TextLayout) : DecidablePred o.HeaderOnFirstLine :=
  fun bytes => inferInstanceAs (Decidable (∀ line ∈ (o.fromHeader bytes).head?, _))

theorem recordFromOrBelow_of_isHeaderLine {line : String} (isHeader : o.isHeaderLine line = true)
    (r : ByteLines) :
    ∃ names, o.recordFromOrBelow none line o.trimHeaders r = (.ok (some names), false, r) := by
  rw [isHeaderLine] at isHeader
  cases split : (o.splitting.split line (ofBytes []) o.trimHeaders).1 with
  | error e =>
    rw [split] at isHeader
    cases isHeader
  | ok names =>
    rw [split] at isHeader
    refine ⟨names, ?_⟩
    rw [recordFromOrBelow, Splitting.split_of_oneLine split]
    simp only at isHeader ⊢
    rw [if_pos isHeader]

end TextLayout

namespace TextTable

variable {o : TextLayout} {bytes : List UInt8}

theorem ofLines_of_header {ρ : Type} [LineSource ρ] {o : TextLayout}
    (headed : o.suppressHeaders = false) {r s : ρ} {header : List String}
    (top : Top o r header false s) :
    ofLines o r = ((o.configured.getD (.ok header)).bind o.settle).map fun columns =>
      belowHeader o columns [] s := by
  generalize possible : false = preamble at top
  cases top with
  | bare bare => exact absurd (headed.symm.trans bare) Bool.false_ne_true
  | headed _ skipped reading skipped' =>
    subst possible
    rw [ofLines_of_skip skipped, headed, if_neg Bool.false_ne_true, openHeaded_eq reading skipped']
    rfl

/-- A text whose header is on its first line has the table below what is dropped of it in a set. -/
theorem eq_belowHeader_of_firstLine (cipher : Option Cipher) (headed : o.suppressHeaders = false)
    (firstLine : o.HeaderOnFirstLine bytes) (holds : o.HoldsHeader bytes) {t : TextTable ByteLines}
    (opened : ofLines o (ofBytes bytes) = .ok t) :
    ∃ r, skipTop (o.laterFiles cipher) (ofBytes bytes) = (.ok none, r) ∧
      t = belowHeader o t.columns [] r := by
  obtain ⟨_, r, names, after, s, lines, skipped, reading, _⟩ := holds.exists_reading
  obtain ⟨b, i, skipped', left⟩ := skip_eq_drop o.skipLeadingLines bytes 0
  cases skipped.symm.trans skipped'
  obtain ⟨rest, j, found, _⟩ := readAfterPreamble_eq_dropWhile o.commentChar
    (size (atBytes b i) + 1) b i (Nat.lt_succ_self _)
  have fromLine := o.readRecord_eq_afterPreamble none o.trimHeaders (size (atBytes b i) + 1)
    (atBytes b i) (Nat.lt_succ_self _)
  have sameLines : (linesOf b).dropWhile (LineSource.isPreamble o.commentChar) =
      o.fromHeader bytes := by rw [left, fromHeader]
  rw [sameLines] at found
  rw [found, reading] at fromLine
  -- The table reads its header from the very line that the set drops.
  cases header : (o.fromHeader bytes).head? with
  | none =>
    rw [header] at fromLine
    cases fromLine
  | some line =>
    obtain ⟨names', fromHeader⟩ := recordFromOrBelow_of_isHeaderLine (firstLine line header)
      (atBytes rest j)
    rw [header] at fromLine
    simp only [fromHeader] at fromLine
    cases fromLine
    obtain ⟨c, k, skipped'', _⟩ := skip_eq_drop o.skipLeadingDataLines rest j
    refine ⟨atBytes c k, ?_, ?_⟩
    · have skipping : LineSource.skip (o.laterFiles cipher).skipLeadingLines (ofBytes bytes) = _ :=
        skipped
      have finding : LineSource.readAfterPreamble (o.laterFiles cipher).commentChar
        (size (atBytes b i) + 1) (atBytes b i) = _ := found
      have skipping' : LineSource.skip (o.laterFiles cipher).linesToSkip (atBytes rest j) = _ :=
        skipped''
      have headers : (o.laterFiles cipher).suppressHeaders = false := headed
      rw [skipTop, skipping]
      simp only [headers, finding, skipping', Bool.false_eq_true, if_false]
    · rw [ofLines_of_header headed (.headed headed skipped reading skipped'')] at opened
      obtain ⟨columns, _, rfl⟩ := exists_of_map_eq_ok opened
      rfl

theorem ofLines_before {l : FileSetLayout} {file : SetFile} (files : List SetFile)
    (headed : o.suppressHeaders = false) (holds : o.HoldsHeader bytes)
    (opening : FileSetLines.openFile l.cipher file = .ok (ofBytes bytes)) {t : TextTable ByteLines}
    (opened : ofLines o (ofBytes bytes) = .ok t) :
    ∃ r s, t = belowHeader o t.columns [] r ∧
      ofLines o (FileSetLines.before l (file :: files) [] false) =
        .ok (belowHeader o t.columns [] s) ∧
      LineSource.readLine s = LineSource.readLine (inside l files file.values r) := by
  obtain ⟨header, preamble, r, top, allowed, inSet⟩ := exists_top_first (o := o) (l := l)
    (by rw [ReachesRecords, if_neg (by rw [headed]; exact Bool.false_ne_true)]; exact holds) opening
  obtain ⟨s, topSet, same⟩ := inSet files
  obtain rfl := allowed headed
  rw [ofLines_of_header headed top] at opened
  obtain ⟨columns, settled, rfl⟩ := exists_of_map_eq_ok opened
  refine ⟨r, s, rfl, ?_, same⟩
  rw [ofLines_of_header headed topSet, settled]
  rfl

theorem gives_laterFiles {cipher : Option Cipher} {files : List SetFile}
    {text : SetFile → List UInt8} {columns : List String} (headed : o.suppressHeaders = false)
    (plain : ∀ file ∈ files, FileSetLines.openFile cipher file = .ok (ofBytes (text file)))
    (opens : ∀ file ∈ files, ∃ t, ofLines o (ofBytes (text file)) = .ok t ∧ t.columns = columns)
    (holds : ∀ file ∈ files, o.HoldsHeader (text file))
    (firstLine : ∀ file ∈ files, o.HeaderOnFirstLine (text file)) :
    ∃ whole, o.ReadsEach text files whole ∧ ∀ values, RecordSource.Gives shown
      (belowHeader o columns [] (FileSetLines.before (o.laterFiles cipher) files values true))
      whole := by
  induction files with
  | nil =>
    refine ⟨([], none), ⟨[], .nil, rfl⟩, fun values => ⟨[], .ended ?_, rfl⟩⟩
    exact next_of_ended rfl []
  | cons file files ih =>
    obtain ⟨whole, each, rest⟩ := ih (fun file mem => plain file (List.mem_cons_of_mem _ mem))
      (fun file mem => opens file (List.mem_cons_of_mem _ mem))
      (fun file mem => holds file (List.mem_cons_of_mem _ mem))
      (fun file mem => firstLine file (List.mem_cons_of_mem _ mem))
    obtain ⟨t, opened, rfl⟩ := opens file List.mem_cons_self
    obtain ⟨r, dropped, table⟩ := eq_belowHeader_of_firstLine cipher headed
      (firstLine file List.mem_cons_self) (holds file List.mem_cons_self) opened
    obtain ⟨states, stop, reads⟩ := RecordSource.exists_reads t
    have own : RecordSource.Gives shown t (states.map shown, stop) := ⟨states, reads, rfl⟩
    have alone := readsAlone_of_gives opened own file.values
    have inSet := gives_inside reads table (rest file.values) []
    refine ⟨_, each.cons (o.laterFiles cipher) alone, fun values => ?_⟩
    have line := readLine_before_later (o := o.laterFiles cipher) files values
      (plain file List.mem_cons_self) dropped
    exact gives_belowHeader_congr (readRecord_congr o _ false false line) inSet []

end TextTable

namespace TaggedTable

variable {o : TextLayout} {cipher : Option Cipher}

/-- A set whose files have the same columns gives the records that they give alone, one file after the
other, if the header of every later file is on the first line below its preamble. The header of the
first file can stand below titles, and can go over several lines. -/
theorem gives_files_with_headers (headed : o.suppressHeaders = false) {pattern : String}
    {entries : List DirectoryEntry} {lines : FileSetLines}
    (indexed : FileSetLines.ofDirectory (o.laterFiles cipher) pattern entries = .ok lines)
    (text : SetFile → List UInt8)
    (plain : ∀ file ∈ lines.files, FileSetLines.openFile cipher file = .ok (ofBytes (text file)))
    (columns : List String)
    (opens : ∀ file ∈ lines.files,
      ∃ t, TextTable.ofLines o (ofBytes (text file)) = .ok t ∧ t.columns = columns)
    (holds : ∀ file ∈ lines.files, o.HoldsHeader (text file))
    (firstLine : ∀ file ∈ lines.files.tail, o.HeaderOnFirstLine (text file))
    (names : List String) (prepended : Bool) :
    InNameOrder pattern entries lines.files ∧
    (lines.files ≠ [] → ∃ table, TextTable.ofLines o lines = .ok table ∧ table.columns = columns) ∧
    ∀ table, TextTable.ofLines o lines = .ok table → ∃ outcomes,
      List.Forall₂ (fun file => o.ReadsAlone (text file) file.values) lines.files outcomes ∧
      RecordSource.Gives RecordSource.fields (ofTable table names prepended)
        ((Outcome.joined outcomes).map fun record =>
          addValues prepended table.columns.length record.1 record.2) := by
  obtain ⟨start, order⟩ := ofDirectory_inNameOrder indexed
  refine ⟨order, ?_⟩
  rw [start]
  generalize lines.files = files at plain opens holds firstLine
  suffices (files ≠ [] → ∃ table, TextTable.ofLines o (before (o.laterFiles cipher) files [] false) =
        .ok table ∧ table.columns = columns) ∧
      ∀ table, TextTable.ofLines o (before (o.laterFiles cipher) files [] false) = .ok table →
        ∃ whole, o.ReadsEach text files whole ∧ RecordSource.Gives TextTable.shown table whole by
    refine ⟨this.1, fun table opened => ?_⟩
    obtain ⟨whole, ⟨outcomes, alone, same⟩, gives⟩ := this.2 table opened
    refine ⟨outcomes, alone, ?_⟩
    rw [← same, Outcome.map_map]
    exact gives_ofTable gives names prepended
  cases files with
  | nil =>
    refine ⟨fun nonempty => absurd rfl nonempty, fun table opened => ?_⟩
    refine ⟨([], none), ⟨[], .nil, rfl⟩, [], .ended ?_, rfl⟩
    have atEnd : LineSource.readLine (before (o.laterFiles cipher) [] [] false) =
      (.ok none, before (o.laterFiles cipher) [] [] false) := rfl
    rw [TextTable.ofLines_of_skip (LineSource.skip_of_end atEnd _), headed,
      if_neg Bool.false_ne_true,
      TextTable.openHeaded_eq (o.readRecord_of_end _ _ _ atEnd) (LineSource.skip_of_end atEnd _)]
      at opened
    obtain ⟨columns, _, rfl⟩ := exists_of_map_eq_ok opened
    simp only [RecordSource.next, TextTable.next, Bool.false_eq_true, if_false,
      o.readRecord_of_end _ _ _ atEnd]
  | cons file files =>
    obtain ⟨t, opened, rfl⟩ := opens file List.mem_cons_self
    obtain ⟨whole, each, rest⟩ := TextTable.gives_laterFiles headed
      (fun file mem => plain file (List.mem_cons_of_mem _ mem))
      (fun file mem => opens file (List.mem_cons_of_mem _ mem))
      (fun file mem => holds file (List.mem_cons_of_mem _ mem)) firstLine
    obtain ⟨r, s, table, openedSet, line⟩ := TextTable.ofLines_before (l := o.laterFiles cipher)
      files headed (holds file List.mem_cons_self) (plain file List.mem_cons_self) opened
    refine ⟨fun _ => ⟨_, openedSet, rfl⟩, fun table' opened' => ?_⟩
    cases openedSet.symm.trans opened'
    obtain ⟨states, stop, reads⟩ := RecordSource.exists_reads t
    have own : RecordSource.Gives TextTable.shown t (states.map TextTable.shown, stop) :=
      ⟨states, reads, rfl⟩
    have alone := readsAlone_of_gives opened own file.values
    have inSet := TextTable.gives_inside reads table (rest file.values) []
    exact ⟨_, each.cons (o.laterFiles cipher) alone,
      TextTable.gives_belowHeader_congr (readRecord_congr o _ false false line) inSet []⟩

/-- The first of two files has a title above its header, and the second one a comment. -/
theorem gives_files_with_headers_below_title :
    ∃ lines table,
      FileSetLines.ofDirectory
          (laterFiles { commentChar := some '#', ignoreUnparseableLines := true } none) "t(.).csv"
          [⟨"t1.csv", some (Utf8.encode "report\nid,name\n1,a\n".toList)⟩,
            ⟨"t2.csv", some (Utf8.encode "# x\n\nid,name\nnote\n2,b\n".toList)⟩] = .ok lines ∧
      TextTable.ofLines { commentChar := some '#', ignoreUnparseableLines := true } lines =
        .ok table ∧
      table.columns = ["id", "name"] ∧
      RecordSource.Gives RecordSource.fields (ofTable table ["part"] false)
        ([[some "1", some "a", some "1"], [some "2", some "b", some "2"]], none) := by
  have opens (bytes : List UInt8) (columns : (TextTable.ofLines
      { commentChar := some '#', ignoreUnparseableLines := true } (ofBytes bytes)).map
        TextTable.columns = .ok ["id", "name"]) := exists_of_map_eq_ok columns
  have indexed := ofDirectory_numbered
    (laterFiles { commentChar := some '#', ignoreUnparseableLines := true } none)
    (some (Utf8.encode "report\nid,name\n1,a\n".toList))
    (some (Utf8.encode "# x\n\nid,name\nnote\n2,b\n".toList))
  obtain ⟨_, opened, gives⟩ := gives_files_with_headers
    (o := { commentChar := some '#', ignoreUnparseableLines := true }) rfl indexed
    (fun file => file.content.getD [])
    (by
      intro file mem
      simp only [List.mem_cons, List.not_mem_nil, or_false] at mem
      rcases mem with rfl | rfl <;> rfl)
    ["id", "name"]
    (by
      intro file mem
      simp only [List.mem_cons, List.not_mem_nil, or_false] at mem
      rcases mem with rfl | rfl
      · exact opens _ (by decide +kernel)
      · exact opens _ (by decide +kernel))
    (by decide +kernel) (by decide +kernel) ["part"] false
  obtain ⟨table, opened, columns⟩ := opened (by simp)
  obtain ⟨outcomes, alone, whole⟩ := gives table opened
  cases alone with
  | cons first alone => cases alone with
    | cons second alone =>
      cases alone
      obtain rfl := first.unique (readsAlone_of_map 5 ["id", "name"] [[some "1", some "a"]] none
        (by decide +kernel))
      obtain rfl := second.unique (readsAlone_of_map 5 ["id", "name"] [[some "2", some "b"]] none
        (by decide +kernel))
      rw [columns] at whole
      exact ⟨_, table, indexed, opened, columns, whole⟩

/-- A title in a later file is dropped in place of the header, and the header is given as a record. -/
theorem header_below_title_is_record :
    ∃ lines table outcomes,
      FileSetLines.ofDirectory (laterFiles { ignoreUnparseableLines := true } none) "t(.).csv"
          [⟨"t1.csv", some (Utf8.encode "report\nid,name\n1,a\n".toList)⟩,
            ⟨"t2.csv", some (Utf8.encode "report\nid,name\n2,b\n".toList)⟩] = .ok lines ∧
      (∀ file ∈ lines.files, ∃ t, TextTable.ofLines { ignoreUnparseableLines := true }
        (ofBytes (file.content.getD [])) = .ok t ∧ t.columns = ["id", "name"]) ∧
      (∀ file ∈ lines.files,
        HoldsHeader { ignoreUnparseableLines := true } (file.content.getD [])) ∧
      TextTable.ofLines { ignoreUnparseableLines := true } lines = .ok table ∧
      List.Forall₂ (fun file => ReadsAlone { ignoreUnparseableLines := true }
        (file.content.getD []) file.values) lines.files outcomes ∧
      (Outcome.joined outcomes).map
          (fun record => addValues false table.columns.length record.1 record.2) =
        ([[some "1", some "a", some "1"], [some "2", some "b", some "2"]], none) ∧
      RecordSource.Gives RecordSource.fields (ofTable table ["part"] false)
        ([[some "1", some "a", some "1"], [some "id", some "name", some "2"],
          [some "2", some "b", some "2"]], none) := by
  have alone (bytes : List UInt8) (value : String) (records : List (List (Option String)))
      (read : (TextTable.ofLines { ignoreUnparseableLines := true } (ofBytes bytes)).map (fun t =>
          (t.columns, RecordSource.outcomeWithin RecordSource.fields 5 t)) =
        .ok (["id", "name"], some (records, none))) :
      (∃ t, TextTable.ofLines { ignoreUnparseableLines := true } (ofBytes bytes) = .ok t ∧
        t.columns = ["id", "name"]) ∧
      ReadsAlone { ignoreUnparseableLines := true } bytes [value]
        (records.map fun record => (record, [value]), none) := by
    obtain ⟨t, opened, columns, _⟩ := RecordSource.exists_gives_of_map read
    exact ⟨⟨t, opened, columns⟩, readsAlone_of_map 5 _ records none read⟩
  have first := alone (Utf8.encode "report\nid,name\n1,a\n".toList) "1"
    [[some "1", some "a"]] (by decide +kernel)
  have second := alone (Utf8.encode "report\nid,name\n2,b\n".toList) "2"
    [[some "2", some "b"]] (by decide +kernel)
  have whole : (TextTable.ofLines { ignoreUnparseableLines := true }
      ({ layout := laterFiles { ignoreUnparseableLines := true } none, files :=
        [⟨some (Utf8.encode "report\nid,name\n1,a\n".toList), ["1"]⟩,
          ⟨some (Utf8.encode "report\nid,name\n2,b\n".toList), ["2"]⟩] } : FileSetLines)).map
        (fun t => (t.columns,
          RecordSource.outcomeWithin RecordSource.fields 5 (ofTable t ["part"] false))) =
      .ok (["id", "name"], some ([[some "1", some "a", some "1"], [some "id", some "name", some "2"],
        [some "2", some "b", some "2"]], none)) := by decide +kernel
  obtain ⟨table, opened, columns, gives⟩ := RecordSource.exists_gives_of_map whole
  refine ⟨_, table, _, ofDirectory_numbered _ _ _, ?_, by decide +kernel, opened,
    .cons first.2 (.cons second.2 .nil), ?_, gives⟩
  · intro file mem
    simp only [List.mem_cons, List.not_mem_nil, or_false] at mem
    rcases mem with rfl | rfl
    · exact first.1
    · exact second.1
  · rw [columns]
    rfl

end TaggedTable

end PlainTables
