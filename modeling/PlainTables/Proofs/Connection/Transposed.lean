import PlainTables.Proofs.Connection.FileSet
import PlainTables.Proofs.Records.ColumnNames
import PlainTables.Proofs.Records.FileKeys
import PlainTables.Proofs.Records.FileSet
import PlainTables.Proofs.Records.Melted

/-!
# Transposed sets of files

The files of a transposed set share their key rows. Where the set drops these from a later file, it gives
the rows that its files give when each of them is a set of its own.
-/

namespace PlainTables

open ByteLines FileSetLines TextLayout

theorem MeltedTable.rows_addValues (keys : List (List String)) (regularCount width : Nat)
    (records : Outcome (List (Option String) × List String)) :
    rows keys regularCount (records.map fun record => addValues true width record.1 record.2) =
      rows keys regularCount (records.map fun record => record.2.map some ++ record.1) := by
  have same (record : List (Option String) × List String) :
      row keys regularCount (addValues true width record.1 record.2) =
        row keys regularCount (record.2.map some ++ record.1) := by
    rw [addValues, if_pos rfl, ← List.append_assoc, row_append_replicate]
  unfold rows
  split
  · rfl
  · rw [Outcome.flatMap_map, Outcome.flatMap_map]
    simp only [same]

namespace Connection

variable {c : Connection} {tree : FileTree} {name : String}

abbrev layoutOf (c : Connection) (name : String) : TextLayout :=
  c.settings.layoutFor c.fixedWidths name

abbrev filesLayout (c : Connection) : FileSetLayout :=
  c.settings.fileSetLayout c.cipher

def melt (c : Connection) (name : String) (lines : FileSetLines) :
    Except QueryError (MeltedTable FileTable) := do
  let text ← TextTable.ofLines (c.layoutOf name) lines
  let header ← c.meltedHeader name
  MeltedTable.ofTable (.inr (.ofTable text c.settings.fileTailParts c.settings.fileTailPrepend))
    c.settings.transposedLines c.settings.transposedFieldsToSkip header

theorem openTable_eq_melt {lines : FileSetLines} (indexed : c.settings.indexedFiles = true)
    (noReader : c.reader = none) (transposed : c.settings.transposedLines ≠ 0)
    (found : c.openFileSet tree name = .ok lines) :
    c.openTable tree name = (c.melt name lines).map fun t => .inr (.inr t) := by
  rw [openTable, openText_of_openFileSet indexed noReader found, melt]
  simp only [if_neg transposed]
  cases TextTable.ofLines (c.layoutOf name) lines with
  | error e => rfl
  | ok text =>
    cases c.meltedHeader name with
    | error e => rfl
    | ok header =>
      simp only [Except.map, bind, Except.bind]
      cases MeltedTable.ofTable (.inr (.ofTable text c.settings.fileTailParts
        c.settings.fileTailPrepend) : FileTable) c.settings.transposedLines
        c.settings.transposedFieldsToSkip header <;> rfl

/-- A transposed table whose header is configured: its keys and its rows are those of these records,
which have columns of this number. -/
structure MeltedFrom (c : Connection) (header : List String) (width : Nat)
    (records : Outcome (List (Option String) × List String)) (t : MeltedTable FileTable) : Prop where
  enough : c.settings.transposedLines ≤ records.1.length
  places : c.settings.transposedLines < header.length
  columns : t.columns = header
  keys : t.keys = (records.1.take c.settings.transposedLines).map fun record =>
    MeltedTable.keysOf c.settings.transposedFieldsToSkip (addValues true width record.1 record.2)
  rows : RecordSource.Gives RecordSource.fields t
    (MeltedTable.rows t.keys (header.length - c.settings.transposedLines - 1)
      ((records.drop c.settings.transposedLines).map fun record => record.2.map some ++ record.1))

theorem strict_layoutOf (transposed : 0 < c.settings.transposedLines) (name : String) :
    (c.layoutOf name).ignoreUnparseableLines = false := by
  simp [Settings.layoutFor, transposed]

theorem exists_header_of_melt {lines : FileSetLines} {t : MeltedTable FileTable}
    (configured : (c.settings.headerLineFor name).isSome) (melted : c.melt name lines = .ok t) :
    ∃ header, c.meltedHeader name = .ok (some header) := by
  obtain ⟨line, given⟩ := Option.isSome_iff_exists.mp configured
  obtain ⟨text, _, melted⟩ := bind_eq_ok_iff.mp melted
  obtain ⟨header, read, _⟩ := bind_eq_ok_iff.mp melted
  unfold meltedHeader at read ⊢
  rw [given] at read ⊢
  have tokenized := read
  obtain ⟨names, _, rfl⟩ := exists_of_map_eq_ok tokenized
  exact ⟨names, read⟩

/-- A file in a set of its own is melted into these rows below its key rows. -/
def MeltsAlone (c : Connection) (name : String) (columns : List String) (file : SetFile)
    (rows : Outcome (List (Option String))) : Prop :=
  ∃ t, c.melt name (before c.filesLayout [file] [] false) = .ok t ∧ t.columns = columns ∧
    RecordSource.Gives RecordSource.fields t rows

section

variable {header : List String} {files : List SetFile} {keys : List (List String)}
  (transposed : 0 < c.settings.transposedLines)
  (configured : c.meltedHeader name = .ok (some header))
  (prepended : c.settings.fileTailPrepend = true)

include transposed configured

theorem exists_record_of_melt {lines : FileSetLines} {t : MeltedTable FileTable}
    (melted : c.melt name lines = .ok t) :
    ∃ text, TextTable.ofLines (c.layoutOf name) lines = .ok text ∧
      (RecordSource.next text).1 = .ok true := by
  obtain ⟨text, opened, melted⟩ := bind_eq_ok_iff.mp melted
  obtain ⟨header', configured', melted⟩ := bind_eq_ok_iff.mp melted
  cases configured.symm.trans configured'
  obtain ⟨states, stop, reads⟩ := RecordSource.exists_reads text
  have own : RecordSource.Gives TextTable.shown text (states.map TextTable.shown, stop) :=
    ⟨states, reads, rfl⟩
  have tagged :=
    TaggedTable.gives_ofTable own c.settings.fileTailParts c.settings.fileTailPrepend
  have given : RecordSource.Gives RecordSource.fields (.inr (.ofTable text c.settings.fileTailParts
    c.settings.fileTailPrepend) : FileTable) _ := RecordSource.Gives.inr tagged
  obtain ⟨enough, _⟩ := MeltedTable.gives_ofTable given melted
  refine ⟨text, opened, ?_⟩
  cases reads with
  | ended => exact absurd enough (Nat.not_le_of_lt transposed)
  | failed => exact absurd enough (Nat.not_le_of_lt transposed)
  | record atRecord _ => exact atRecord

include prepended

theorem melt_of_run {lines s : FileSetLines} {head columns : List String} {preamble : Bool}
    {whole : Outcome (List String × FileSetLines)}
    (top : Top (c.layoutOf name) lines head preamble s)
    (run : Run (c.layoutOf name) preamble s whole)
    (settled : (c.layoutOf name).columnsOf head whole = .ok columns) :
    (∀ t, c.melt name lines = .ok t → c.MeltedFrom header columns.length (whole.map seen) t) ∧
    (c.settings.transposedLines ≤ whole.1.length → c.settings.transposedLines < header.length →
      ∃ t, c.melt name lines = .ok t) := by
  obtain ⟨table, opened, gives⟩ :=
    TextTable.ofLines_of_top (strict_layoutOf transposed name) top run
  obtain ⟨named, gives⟩ := gives columns
  have tagged := TaggedTable.gives_ofTable gives c.settings.fileTailParts c.settings.fileTailPrepend
  rw [named, prepended] at tagged
  have given : RecordSource.Gives RecordSource.fields
      (.inr (.ofTable (table columns) c.settings.fileTailParts true) : FileTable)
      ((whole.map seen).map fun record => addValues true columns.length record.1 record.2) :=
    RecordSource.Gives.inr (by rw [Outcome.map_map]; exact tagged)
  rw [settled] at opened
  have melt_eq : c.melt name lines = MeltedTable.ofTable
      (.inr (.ofTable (table columns) c.settings.fileTailParts true) : FileTable)
      c.settings.transposedLines c.settings.transposedFieldsToSkip (some header) := by
    rw [melt, opened, configured, prepended]
    rfl
  rw [melt_eq]
  refine ⟨fun t melted => ?_, fun enough places => ?_⟩
  · obtain ⟨enough, places, keys, rows⟩ := MeltedTable.gives_ofTable given melted
    rw [← Outcome.map_drop, MeltedTable.rows_addValues] at rows
    refine ⟨by simpa [Outcome.map] using enough, places,
      (MeltedTable.columns_of_ofTable melted).1 _ rfl, ?_, rows⟩
    rw [keys, Outcome.map, ← List.map_take, List.map_map]
    rfl
  · exact MeltedTable.exists_ofTable given _ (by simpa [Outcome.map] using enough) places

/-- A file that is a set of its own starts every set with the records that it is melted from. -/
theorem exists_startsWith_of_melt {l : FileSetLayout} {file : SetFile} {bytes : List UInt8}
    {t : MeltedTable FileTable} (opening : FileSetLines.openFile l.cipher file = .ok (ofBytes bytes))
    (melted : c.melt name (before l [file] [] false) = .ok t) :
    ∃ head own columns, (c.layoutOf name).StartsWith l file bytes head own ∧
      (c.layoutOf name).columnsOf head own = .ok columns ∧
      c.MeltedFrom header columns.length (own.map (seenIn file.values)) t := by
  have strict := strict_layoutOf transposed name
  obtain ⟨text, opened, atRecord⟩ := exists_record_of_melt transposed configured melted
  obtain ⟨head, own, starts⟩ := exists_startsWith strict opening
    (reachesRecords_of_record strict opening opened atRecord)
  obtain ⟨preamble, s, top, run⟩ := starts.run [] ([], none) fun _ _ => .ended rfl rfl
  obtain ⟨table, opening', _⟩ := TextTable.ofLines_of_top strict top run
  rw [opened] at opening'
  obtain ⟨columns, settled, _⟩ := exists_of_map_eq_ok opening'.symm
  have found := (melt_of_run transposed configured prepended top run settled).1 t melted
  rw [Outcome.followedBy_nil, map_seen_placed] at found
  have enough : c.settings.transposedLines ≤ own.1.length := by
    simpa [Outcome.map] using found.enough
  have some := List.ne_nil_of_length_pos (Nat.lt_of_lt_of_le transposed enough)
  rw [columnsOf_placed _ _ _ _ _ some] at settled
  exact ⟨head, own, columns, starts, settled, found⟩

/-- The set is melted from the records of its first file with those of the later files after them. -/
theorem exists_melt_of_startsWith {file : SetFile} {bytes : List UInt8} {head columns : List String}
    {own : Outcome (List String × ByteLines)} {t : MeltedTable FileTable}
    (starts : (c.layoutOf name).StartsWith c.filesLayout file bytes head own)
    (settled : (c.layoutOf name).columnsOf head own = .ok columns)
    (first : c.MeltedFrom header columns.length (own.map (seenIn file.values)) t)
    {whole : Outcome (List String × FileSetLines)}
    (run : ∀ possible, (c.layoutOf name).AllowsPreamble possible →
      Run (c.layoutOf name) possible (before c.filesLayout files file.values true) whole) :
    ∃ table, c.melt name (before c.filesLayout (file :: files) [] false) = .ok table ∧
      c.MeltedFrom header columns.length
        ((own.map (seenIn file.values)).followedBy (whole.map seen)) table := by
  obtain ⟨preamble, s, top, run⟩ := starts.run files whole run
  have enough : c.settings.transposedLines ≤ own.1.length := by
    simpa [Outcome.map] using first.enough
  have some := List.ne_nil_of_length_pos (Nat.lt_of_lt_of_le transposed enough)
  have same := columnsOf_placed (c.layoutOf name) c.filesLayout files file.values head some whole
  obtain ⟨facts, opens⟩ :=
    melt_of_run transposed configured prepended top run (same.trans settled)
  obtain ⟨table, melted⟩ := opens (Nat.le_trans (by simpa [Outcome.map, placed] using enough)
    (Outcome.length_le_followedBy _ whole)) first.places
  have given := facts table melted
  rw [Outcome.map_followedBy, map_seen_placed] at given
  exact ⟨table, melted, given⟩

/-- The later files of a set give the records below their key rows, from which they are melted in sets
of their own as well. -/
theorem exists_laterFiles {text : SetFile → List UInt8}
    (plain : ∀ file ∈ files, FileSetLines.openFile c.cipher file = .ok (ofBytes (text file)))
    (opens : ∀ file ∈ files,
      ∃ t, c.melt name (before c.filesLayout [file] [] false) = .ok t ∧ t.keys = keys)
    (onLines : ∀ file ∈ files,
      (c.layoutOf name).KeysOnLines c.settings.transposedLines (text file)) :
    ∃ whole records,
      (∀ values possible, (c.layoutOf name).AllowsPreamble possible →
        Run (c.layoutOf name) possible (before c.filesLayout files values true) whole) ∧
      whole.map seen = Outcome.joined records ∧
      List.Forall₂ (fun file records => c.MeltsAlone name header file
        (MeltedTable.rows keys (header.length - c.settings.transposedLines - 1)
          (records.map fun record => record.2.map some ++ record.1))) files records := by
  have strict := strict_layoutOf transposed name
  have each : ∀ file ∈ files, ∃ records : Outcome (List (Option String) × List String),
      (∃ own, ((c.layoutOf name).withKeys c.settings.transposedLines).HasRecords (text file) own ∧
        own.map (seenIn file.values) = records) ∧
      c.MeltsAlone name header file
        (MeltedTable.rows keys (header.length - c.settings.transposedLines - 1)
          (records.map fun record => record.2.map some ++ record.1)) := by
    intro file mem
    obtain ⟨t, melted, sameKeys⟩ := opens file mem
    -- The key rows of the file alone are read as records; the set drops as many lines of it.
    obtain ⟨_, own, _, starts, _, found⟩ :=
      exists_startsWith_of_melt transposed configured prepended (plain file mem) melted
    have enough : c.settings.transposedLines ≤ own.1.length := by
      simpa [Outcome.map] using found.enough
    have rows := found.rows
    rw [sameKeys, ← Outcome.map_drop] at rows
    exact ⟨_, ⟨_, starts.records.withKeys strict (onLines file mem) enough, rfl⟩, t, melted,
      found.columns, rows⟩
  obtain ⟨records, each⟩ := exists_forall₂ each
  obtain ⟨whole, run, same⟩ := run_records
    (o := (c.layoutOf name).withKeys c.settings.transposedLines) strict plain
    (fun file mem => (onLines file mem).header) (each.imp fun _ _ => And.left)
  exact ⟨whole, records, fun values possible allowed => (run values possible allowed).of_withKeys,
    same, each.imp fun _ _ => And.right⟩

end

/-- A set of transposed files with the same keys gives the rows that each of them gives in a set of its
own, one file after the other, if the key rows of every later file are on lines of their own. -/
theorem melts_files_in_order (indexed : c.settings.indexedFiles = true) (noReader : c.reader = none)
    (transposed : 0 < c.settings.transposedLines)
    (configured : (c.settings.headerLineFor name).isSome)
    (prepended : c.settings.fileTailPrepend = true) {lines : FileSetLines}
    (found : c.openFileSet tree name = .ok lines) (text : SetFile → List UInt8)
    (plain : ∀ file ∈ lines.files,
      FileSetLines.openFile c.cipher file = .ok (ofBytes (text file)))
    (keys : List (List String))
    (opens : ∀ file ∈ lines.files,
      ∃ t, c.melt name { lines with files := [file] } = .ok t ∧ t.keys = keys)
    (onLines : ∀ file ∈ lines.files.tail,
      (c.layoutOf name).KeysOnLines c.settings.transposedLines (text file)) :
    (∃ directory base entries, c.settings.fileSetPlace name = some (directory, base) ∧
      tree.entries directory = .ok entries ∧
      InNameOrder (c.settings.fileSetPattern base) entries lines.files) ∧
    ∃ table outcomes, c.openTable tree name = .ok (.inr (.inr table)) ∧ table.keys = keys ∧
      List.Forall₂ (fun file outcome => ∃ t, c.melt name { lines with files := [file] } = .ok t ∧
        t.columns = table.columns ∧ RecordSource.Gives RecordSource.fields t outcome)
        lines.files outcomes ∧
      RecordSource.Gives RecordSource.fields table (Outcome.joined outcomes) := by
  obtain ⟨directory, base, entries, place, listed, indexedFiles, some⟩ := openFileSet_eq_ok found
  obtain ⟨start, order⟩ := ofDirectory_inNameOrder indexedFiles
  refine ⟨⟨directory, base, entries, place, listed, order⟩, ?_⟩
  rw [openTable_eq_melt indexed noReader (Nat.ne_of_gt transposed) found]
  clear found place listed order indexedFiles
  generalize lines.files = files at start plain opens onLines
  subst start
  suffices ∃ table outcomes, c.melt name (before c.filesLayout files [] false) = .ok table ∧
      table.keys = keys ∧ List.Forall₂ (c.MeltsAlone name table.columns) files outcomes ∧
      RecordSource.Gives RecordSource.fields table (Outcome.joined outcomes) by
    obtain ⟨table, outcomes, melted, sameKeys, alone, gives⟩ := this
    exact ⟨table, outcomes, by rw [melted]; rfl, sameKeys, alone, gives⟩
  cases files with
  | nil => exact absurd rfl some
  | cons file files =>
    obtain ⟨t, melted, sameKeys⟩ := opens file List.mem_cons_self
    obtain ⟨header, configured⟩ := exists_header_of_melt configured melted
    obtain ⟨head, own, columns, starts, settled, first⟩ := exists_startsWith_of_melt transposed
      configured prepended (plain file List.mem_cons_self) melted
    obtain ⟨whole, records, run, same, later⟩ := exists_laterFiles transposed configured prepended
      (fun file mem => plain file (List.mem_cons_of_mem _ mem))
      (fun file mem => opens file (List.mem_cons_of_mem _ mem)) onLines
    obtain ⟨table, meltedSet, given⟩ := exists_melt_of_startsWith transposed configured prepended starts
      settled first (run file.values)
    rw [same] at given
    have tableKeys : table.keys = keys := by
      rw [given.keys, Outcome.take_followedBy first.enough, ← first.keys, sameKeys]
    have rows := given.rows
    have ownRows := first.rows
    -- Below the key rows the records of the set are those of its files, and so are their rows.
    rw [tableKeys, Outcome.drop_followedBy first.enough, Outcome.map_followedBy,
      MeltedTable.rows_followedBy, Outcome.map_joined, MeltedTable.rows_joined, List.map_map] at rows
    rw [sameKeys] at ownRows
    refine ⟨table, _ :: _, meltedSet, tableKeys, .cons ⟨t, melted, ?_, ownRows⟩ ?_, rows⟩
    · exact first.columns.trans given.columns.symm
    · rw [given.columns, List.forall₂_map_right_iff]
      exact later

/-- Two files with lines to skip above and below their headers, a comment, and the same key row. -/
theorem melts_files_below_skipped_lines :
    ∃ c lines table,
      ofSettings { path := "d", headerLine := some "P,J,D,V", commentChar := some '#',
                   skipLeadingLines := 1, skipLeadingDataLines := 1, transposedLines := 1,
                   transposedFieldsToSkip := 2, indexedFiles := true,
                   fileTailPattern := some "_(.)", fileTailParts := ["J"],
                   fileTailPrepend := true } = .ok c ∧
      c.openFileSet (.ofFiles
        [("d/j_1.csv", Utf8.encode "x\n#c\nD,A,B\n-\nP,p1,p2\nd1,1,2\n".toList),
          ("d/j_2.csv", Utf8.encode "y\n\nD,A,B\n-\nP,p1,p2\n#d,3,4\nd2,5\n".toList)]) "j" =
        .ok lines ∧
      c.openTable (.ofFiles
        [("d/j_1.csv", Utf8.encode "x\n#c\nD,A,B\n-\nP,p1,p2\nd1,1,2\n".toList),
          ("d/j_2.csv", Utf8.encode "y\n\nD,A,B\n-\nP,p1,p2\n#d,3,4\nd2,5\n".toList)]) "j" =
        .ok (.inr (.inr table)) ∧
      table.keys = [["p1", "p2"]] ∧
      RecordSource.columns table = ["P", "J", "D", "V"] ∧
      RecordSource.Gives RecordSource.fields table
        ([[some "p1", some "1", some "d1", some "1"], [some "p2", some "1", some "d1", some "2"],
          [some "p1", some "2", some "#d", some "3"], [some "p2", some "2", some "#d", some "4"],
          [some "p1", some "2", some "d2", some "5"], [some "p2", some "2", some "d2", some ""]],
          none) := by
  obtain ⟨c, settled⟩ : ∃ c, ofSettings
      { path := "d", headerLine := some "P,J,D,V", commentChar := some '#', skipLeadingLines := 1,
        skipLeadingDataLines := 1, transposedLines := 1, transposedFieldsToSkip := 2,
        indexedFiles := true, fileTailPattern := some "_(.)", fileTailParts := ["J"],
        fileTailPrepend := true } = .ok c := ⟨_, rfl⟩
  have set := openFileSet_numbered (c := c) (by cases settled; decide +kernel)
    (by cases settled; decide +kernel)
    (Utf8.encode "x\n#c\nD,A,B\n-\nP,p1,p2\nd1,1,2\n".toList)
    (Utf8.encode "y\n\nD,A,B\n-\nP,p1,p2\n#d,3,4\nd2,5\n".toList)
  have opens (bytes : List UInt8) (values : List String)
      (read : (c.melt "j" { layout := c.filesLayout, files := [⟨some bytes, values⟩] }).map
        MeltedTable.keys = .ok [["p1", "p2"]]) := exists_of_map_eq_ok read
  obtain ⟨_, table, outcomes, opened, keys, alone, gives⟩ := melts_files_in_order (c := c)
    (by cases settled; rfl) (by cases settled; rfl) (by cases settled; decide)
    (by cases settled; rfl) (by cases settled; rfl) set (fun file => file.content.getD [])
    (by
      cases settled
      intro file mem
      simp only [List.mem_cons, List.not_mem_nil, or_false] at mem
      rcases mem with rfl | rfl <;> rfl)
    [["p1", "p2"]]
    (by
      intro file mem
      simp only [List.mem_cons, List.not_mem_nil, or_false] at mem
      rcases mem with rfl | rfl
      · exact opens _ _ (by cases settled; decide +kernel)
      · exact opens _ _ (by cases settled; decide +kernel))
    (by
      cases settled
      intro file mem
      simp only [List.tail_cons, List.mem_singleton] at mem
      subst mem
      exact ⟨by decide +kernel, by decide +kernel, fun headers => (by cases headers),
        fun headers => (by cases headers)⟩)
  have read : (c.melt "j" { layout := c.filesLayout, files :=
      [⟨some (Utf8.encode "x\n#c\nD,A,B\n-\nP,p1,p2\nd1,1,2\n".toList), ["1"]⟩,
        ⟨some (Utf8.encode "y\n\nD,A,B\n-\nP,p1,p2\n#d,3,4\nd2,5\n".toList), ["2"]⟩] }).map (fun t =>
          (t.columns, RecordSource.outcomeWithin RecordSource.fields 9 t)) =
      .ok (["P", "J", "D", "V"],
        some ([[some "p1", some "1", some "d1", some "1"], [some "p2", some "1", some "d1", some "2"],
          [some "p1", some "2", some "#d", some "3"], [some "p2", some "2", some "#d", some "4"],
          [some "p1", some "2", some "d2", some "5"], [some "p2", some "2", some "d2", some ""]],
          none)) := by
    cases settled
    decide +kernel
  obtain ⟨t, melted, columns, found⟩ := RecordSource.exists_gives_of_map read
  have started := opened
  rw [openTable_eq_melt (by cases settled; rfl) (by cases settled; rfl) (by cases settled; decide) set,
    melted] at started
  cases started
  rw [gives.unique found] at gives
  exact ⟨c, _, table, settled, set, opened, keys, columns, gives⟩

/-- Without headers the lines of the keys are dropped above the comments of a later file, so that a
comment is dropped in place of its key row, which is melted like a record. -/
theorem key_row_below_comment_is_melted :
    ∃ c lines table outcomes,
      ofSettings { path := "d", headerLine := some "P,J,D,V", suppressHeaders := true,
                   commentChar := some '#', transposedLines := 1, transposedFieldsToSkip := 2,
                   indexedFiles := true, fileTailPattern := some "_(.)", fileTailParts := ["J"],
                   fileTailPrepend := true } = .ok c ∧
      c.openFileSet (.ofFiles [("d/j_1.csv", Utf8.encode "#c\nP,p1,p2\nd1,1,2\n".toList),
        ("d/j_2.csv", Utf8.encode "#c\nP,p1,p2\nd2,3,4\n".toList)]) "j" = .ok lines ∧
      List.Forall₂ (fun file outcome => ∃ t, c.melt "j" { lines with files := [file] } = .ok t ∧
        t.keys = [["p1", "p2"]] ∧ RecordSource.Gives RecordSource.fields t outcome)
        lines.files outcomes ∧
      Outcome.joined outcomes =
        ([[some "p1", some "1", some "d1", some "1"], [some "p2", some "1", some "d1", some "2"],
          [some "p1", some "2", some "d2", some "3"], [some "p2", some "2", some "d2", some "4"]],
          none) ∧
      c.openTable (.ofFiles [("d/j_1.csv", Utf8.encode "#c\nP,p1,p2\nd1,1,2\n".toList),
        ("d/j_2.csv", Utf8.encode "#c\nP,p1,p2\nd2,3,4\n".toList)]) "j" =
          .ok (.inr (.inr table)) ∧
      RecordSource.Gives RecordSource.fields table
        ([[some "p1", some "1", some "d1", some "1"], [some "p2", some "1", some "d1", some "2"],
          [some "p1", some "2", some "P", some "p1"], [some "p2", some "2", some "P", some "p2"],
          [some "p1", some "2", some "d2", some "3"], [some "p2", some "2", some "d2", some "4"]],
          none) := by
  obtain ⟨c, settled⟩ : ∃ c, ofSettings
      { path := "d", headerLine := some "P,J,D,V", suppressHeaders := true, commentChar := some '#',
        transposedLines := 1, transposedFieldsToSkip := 2, indexedFiles := true,
        fileTailPattern := some "_(.)", fileTailParts := ["J"], fileTailPrepend := true } = .ok c :=
    ⟨_, rfl⟩
  have set := openFileSet_numbered (c := c) (by cases settled; decide +kernel)
    (by cases settled; decide +kernel) (Utf8.encode "#c\nP,p1,p2\nd1,1,2\n".toList)
    (Utf8.encode "#c\nP,p1,p2\nd2,3,4\n".toList)
  have melts (files : List SetFile) (rows : List (List (Option String)))
      (read : (c.melt "j" { layout := c.filesLayout, files }).map (fun t =>
        (t.keys, RecordSource.outcomeWithin RecordSource.fields 9 t)) =
          .ok ([["p1", "p2"]], some (rows, none))) :
      ∃ t, c.melt "j" { layout := c.filesLayout, files } = .ok t ∧ t.keys = [["p1", "p2"]] ∧
        RecordSource.Gives RecordSource.fields t (rows, none) := by
    exact RecordSource.exists_gives_of_map read
  have first := melts [⟨some (Utf8.encode "#c\nP,p1,p2\nd1,1,2\n".toList), ["1"]⟩]
    [[some "p1", some "1", some "d1", some "1"], [some "p2", some "1", some "d1", some "2"]]
    (by cases settled; decide +kernel)
  have second := melts [⟨some (Utf8.encode "#c\nP,p1,p2\nd2,3,4\n".toList), ["2"]⟩]
    [[some "p1", some "2", some "d2", some "3"], [some "p2", some "2", some "d2", some "4"]]
    (by cases settled; decide +kernel)
  obtain ⟨table, melted, _, gives⟩ := melts
    [⟨some (Utf8.encode "#c\nP,p1,p2\nd1,1,2\n".toList), ["1"]⟩,
      ⟨some (Utf8.encode "#c\nP,p1,p2\nd2,3,4\n".toList), ["2"]⟩]
    [[some "p1", some "1", some "d1", some "1"], [some "p2", some "1", some "d1", some "2"],
      [some "p1", some "2", some "P", some "p1"], [some "p2", some "2", some "P", some "p2"],
      [some "p1", some "2", some "d2", some "3"], [some "p2", some "2", some "d2", some "4"]]
    (by cases settled; decide +kernel)
  refine ⟨c, _, table, _, settled, set, .cons first (.cons second .nil), rfl, ?_, gives⟩
  rw [openTable_eq_melt (by cases settled; rfl) (by cases settled; rfl) (by cases settled; decide) set,
    melted]
  rfl

end Connection

end PlainTables
