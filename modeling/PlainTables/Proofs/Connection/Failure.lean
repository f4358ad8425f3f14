import PlainTables.Proofs.Connection.Columns
import PlainTables.Proofs.Query.Failure
import PlainTables.Proofs.Records.Failure

/-!
# What accepted settings leave open

Opening a connection checks ranges of fields, declared types and the cipher, and a query that uses them again
never fails for them. Only a pattern of file names and the header of a transposed table are first looked at
when a table is opened.
-/

namespace PlainTables

theorem CipherCatalog.newFilter_of_resolve {catalog : CipherCatalog} {name : String}
    {parameters : List String} {cipher : Cipher}
    (resolved : catalog.resolve name parameters = .ok cipher) : ∃ f, cipher.newFilter = .ok f := by
  unfold resolve at resolved
  split at resolved
  · cases resolved
  · split at resolved
    · rename_i f makes
      cases resolved
      exact ⟨f, by simp only [Cipher.newFilter, makes]⟩
    · cases resolved

theorem FileSetLines.failsOnly_ofDirectory (o : FileSetLayout) (pattern : String)
    (entries : List DirectoryEntry) :
    FailsOnly (fun e => e = .invalidConfiguration .fileNamePattern ∧
      NamePattern.ofFileNames? pattern = none) (ofDirectory o pattern entries) := by
  unfold ofDirectory
  split
  · rename_i unreadable
    exact .error ⟨rfl, unreadable⟩
  · exact .ok _

/-- A set of files is not found for its directory or for a pattern that cannot be read. -/
theorem FileSetLines.failsOnly_ofTree (o : FileSetLayout) (pattern : String) (tree : FileTree)
    (directory : String) :
    FailsOnly (fun e => (∃ fault, e = .io fault) ∨
      e = .invalidConfiguration .fileNamePattern ∧ NamePattern.ofFileNames? pattern = none)
      (ofTree o pattern tree directory) := by
  unfold ofTree
  split
  · exact (failsOnly_ofDirectory o pattern _).mono fun _ => .inr
  · -- A pattern that cannot be read is found first, even if there is no directory.
    exact ((failsOnly_ofDirectory o pattern []).mono fun _ => .inr).bind fun _ _ =>
      .error (.inl ⟨_, rfl⟩)

theorem Statement.failsOnly_parse (sql : String) :
    FailsOnly (·.isOfSettings = false) (Statement.parse sql) := by
  unfold parse
  dsimp only
  split
  · split
    · exact .ok _
    · exact .error rfl
  · exact .error rfl
  · exact .error rfl

namespace Connection

variable {c : Connection} {tree : FileTree} {name : String}

/-- The errors of the settings that are only found when a table is opened. -/
inductive LeavesOpen (c : Connection) (name : String) : QueryError → Prop
  /-- The pattern of the names of the files of the table cannot be read. -/
  | pattern {directory base : String} (indexed : c.settings.indexedFiles = true)
      (place : c.settings.fileSetPlace name = some (directory, base))
      (unreadable : NamePattern.ofFileNames? (c.settings.fileSetPattern base) = none) :
      LeavesOpen c name (.invalidConfiguration .fileNamePattern)
  /-- The header of the table has no columns for all keys and a value. -/
  | header {names : List String} (transposed : c.settings.transposedLines ≠ 0)
      (given : c.meltedHeader name = .ok (some names))
      (short : names.length < c.settings.transposedLines + 1) :
      LeavesOpen c name
        (.invalidConfiguration (.transposedHeader c.settings.transposedLines names.length))

/-- What opening a table fails for: not the settings, or what they leave open. -/
def FailsToOpen (c : Connection) (name : String) (e : QueryError) : Prop :=
  e.isOfSettings = false ∨ c.LeavesOpen name e

/-- A connection that has been opened has its settings, no tables of a caller, and a cipher that makes
filters. -/
theorem openWith_eq_ok {catalog : CipherCatalog} {s : Settings} (opened : openWith catalog s = .ok c) :
    c.settings = s ∧ c.reader = none ∧ ∀ cipher ∈ c.cipher, ∃ f, cipher.newFilter = .ok f := by
  obtain ⟨widths, _, opened⟩ := bind_eq_ok_iff.mp opened
  obtain ⟨_, _, opened⟩ := bind_eq_ok_iff.mp opened
  obtain ⟨_, _, opened⟩ := bind_eq_ok_iff.mp opened
  obtain ⟨cipher, resolved, opened⟩ := bind_eq_ok_iff.mp opened
  cases opened
  refine ⟨rfl, rfl, fun found isCipher => ?_⟩
  cases isCipher
  cases chosen : s.cipher with
  | none =>
    rw [chosen] at resolved
    cases resolved
  | some own =>
    rw [chosen] at resolved
    obtain ⟨accepted, resolves, same⟩ := bind_eq_ok_iff.mp resolved
    cases same
    exact CipherCatalog.newFilter_of_resolve resolves

theorem readingErrors : ReadingErrors (·.isOfSettings = false) :=
  ⟨fun _ => rfl, fun _ => QueryError.not_isOfSettings_of_isQuoteError⟩

theorem failsOnly_openBytes (noReader : c.reader = none) :
    FailsOnly (·.isOfSettings = false) (c.openBytes tree name) := by
  unfold openBytes
  rw [noReader]
  dsimp only
  split
  · exact .ok _
  · exact .error rfl

theorem failsOnly_meltedHeader : FailsOnly (·.isOfSettings = false) (c.meltedHeader name) := by
  unfold meltedHeader
  cases c.settings.headerLineFor name with
  | none => exact .ok none
  | some line => exact (Delimiters.failsOnly_tokenize readingErrors _ line _).bind fun _ _ => .ok _

section

variable (filters : ∀ cipher ∈ c.cipher, ∃ f, cipher.newFilter = .ok f)

include filters

theorem failsOnly_newFilter {kind : QueryError → Prop} :
    ∀ cipher ∈ c.cipher, FailsOnly kind cipher.newFilter := by
  intro cipher isCipher
  obtain ⟨f, makes⟩ := filters cipher isCipher
  rw [makes]
  exact .ok f

theorem failsOnly_decryptFile (bytes : List UInt8) :
    FailsOnly (·.isOfSettings = false) (Cipher.decryptFile c.cipher bytes) := by
  unfold Cipher.decryptFile
  split
  · exact .ok _
  · rename_i cipher isCipher
    exact (failsOnly_newFilter filters cipher isCipher).bind fun _ _ => .ok _

theorem yields_openFileSet (indexed : c.settings.indexedFiles = true) :
    Yields (FileSetLines.OpensFiles (·.isOfSettings = false)) (c.FailsToOpen name)
      (c.openFileSet tree name) := by
  constructor
  · unfold openFileSet
    split
    · exact .error (.inl rfl)
    · rename_i directory base place
      have set := FileSetLines.failsOnly_ofTree (c.settings.fileSetLayout c.cipher)
        (c.settings.fileSetPattern base) tree directory
      dsimp only
      generalize FileSetLines.ofTree (c.settings.fileSetLayout c.cipher)
        (c.settings.fileSetPattern base) tree directory = result at set ⊢
      split
      · exact .error (.inl rfl)
      · rename_i e noFault
        rcases set e rfl with ⟨fault, same⟩ | ⟨rfl, unreadable⟩
        · exact absurd same (noFault fault)
        · exact .error (.inr (.pattern indexed place unreadable))
      · split
        · exact .error (.inl rfl)
        · exact .ok _
  · intro lines found
    obtain ⟨directory, base, entries, -, -, matched, -⟩ := openFileSet_eq_ok found
    unfold FileSetLines.ofDirectory at matched
    split at matched
    · cases matched
    · cases matched
      exact FileSetLines.failsOnly_openFile (failsOnly_newFilter filters)

/-- The text of a table is opened, or it is not found, its header is at fault, or its pattern is. -/
theorem yields_openText (noReader : c.reader = none) :
    Yields (TableShape.OpensFiles (·.isOfSettings = false) (.choice .text (.tagged .fileSet)))
      (c.FailsToOpen name) (c.openText tree name) := by
  unfold openText
  dsimp only
  split
  · rename_i indexed
    have isIndexed : c.settings.indexedFiles = true := (Bool.and_eq_true_iff.mp indexed).1
    refine (yields_openFileSet filters isIndexed).bind fun lines opens => ?_
    refine Yields.bind ((TextTable.yields_ofLines readingErrors
      (FileSetLines.keepsLines readingErrors) (fun _ => rfl) _ opens).mono fun _ => .inl) ?_
    intro text opens
    exact .ok opens
  · refine ((failsOnly_openBytes noReader).mono fun _ => .inl).yields.bind fun bytes _ => ?_
    refine ((failsOnly_decryptFile filters bytes).mono fun _ => .inl).yields.bind fun plain _ => ?_
    refine Yields.bind ((TextTable.yields_ofLines readingErrors (ByteLines.keepsLines readingErrors)
      (fun _ => rfl) _ trivial).mono fun _ => .inl) ?_
    intro text _
    exact .ok trivial

/-- A table is opened, or it fails for its text or for the header of its melted records. -/
theorem yields_openTable (noReader : c.reader = none) (tree : FileTree) (name : String) :
    Yields (TableShape.OpensFiles (·.isOfSettings = false) .queried) (c.FailsToOpen name)
      (c.openTable tree name) := by
  unfold openTable
  refine (yields_openText filters noReader).bind fun text opens => ?_
  split
  · exact .ok opens
  · rename_i transposed
    have configured : Yields (fun header => c.meltedHeader name = .ok header) (c.FailsToOpen name)
        (c.meltedHeader name) :=
      ⟨failsOnly_meltedHeader.mono fun _ => .inl, fun _ same => same⟩
    refine configured.bind fun header given => ?_
    have table := (TableShape.keepsRecords readingErrors (.choice .text (.tagged .fileSet))).mono
      fun e reading => (Or.inl reading : c.FailsToOpen name e)
    refine Yields.bind (MeltedTable.yields_ofTable table (fun _ _ => .inl rfl) opens
      c.settings.transposedLines c.settings.transposedFieldsToSkip header ?_) ?_
    · rintro names rfl short
      exact .inr (.header transposed given short)
    · intro melted opens
      exact .ok opens

end

theorem run_eq_of_no_table {sql : String} {statement : Statement}
    (parsed : Statement.parse sql = .ok statement) (noTable : statement.from? = none)
    (scrollable : Bool) :
    c.run tree sql scrollable =
      (statement.run (.inl .singleEmptyRow : Table)
        { declared := [], formats := c.settings.formats, scrollable }).mapError
        (fun failed => failed.error) := by
  rw [run, parsed]
  simp only [noTable, bind, Except.bind, pure, Except.pure]
  cases statement.run (.inl .singleEmptyRow : Table)
    { declared := [], formats := c.settings.formats, scrollable } <;> rfl

/-- A query over a table that opens its files fails for its text and for the statement. -/
theorem not_isOfSettings_of_run {sql : String} {scrollable : Bool} {statement : Statement} {t : Table}
    {options : QueryOptions} (opens : TableShape.OpensFiles (·.isOfSettings = false) .queried t)
    (runs : c.run tree sql scrollable =
      (statement.run t options).mapError fun failed => failed.error) :
    FailsOnly (·.isOfSettings = false) (c.run tree sql scrollable) ∧
    ∀ cursor, c.run tree sql scrollable = .ok cursor →
      ∃ rows stop, cursor.Delivers rows stop ∧ ∀ e, stop = some e → e.isOfSettings = false := by
  have stops {e : QueryError} (fails : e.isOfEvaluation = true ∨
      ∃ states, RecordSource.Reads t states (some e)) : e.isOfSettings = false := by
    rcases fails with evaluation | ⟨states, reads⟩
    · exact QueryError.not_isOfSettings_of_isOfEvaluation evaluation
    · exact (TableShape.keepsRecords readingErrors .queried).of_reads opens reads rfl
  obtain ⟨atOnce, later⟩ := statement.run_failsOnly t options
  cases result : statement.run t options with
  | error failed =>
    have fails : c.run tree sql scrollable = .error failed.error := by rw [runs, result, Except.mapError]
    have settled : failed.error.isOfSettings = false := stops (atOnce failed result)
    refine ⟨fun e other => ?_, fun cursor succeeds => nomatch fails.symm.trans succeeds⟩
    cases fails.symm.trans other
    exact settled
  | ok cursor =>
    have succeeds : c.run tree sql scrollable = .ok cursor := by rw [runs, result, Except.mapError]
    obtain ⟨rows, stop, delivers, ending⟩ := later cursor result
    refine ⟨fun e fails => (nomatch succeeds.symm.trans fails), fun other same => ?_⟩
    cases succeeds.symm.trans same
    exact ⟨rows, stop, delivers, fun e fails => stops (ending e fails)⟩

/-- A connection that has been opened never runs into an unknown cipher, nor into its ranges of fields, its
declared types or the parameters of its cipher. A query that fails for the settings does so for what they
leave open about its table, and going through the rows of a result never does. -/
theorem run_settled {catalog : CipherCatalog} {s : Settings} (opened : openWith catalog s = .ok c)
    (tree : FileTree) (sql : String) (scrollable : Bool) :
    (∀ e, c.run tree sql scrollable = .error e → e.isOfSettings = true →
      ∃ statement table, Statement.parse sql = .ok statement ∧ statement.from? = some table ∧
        c.LeavesOpen table.name e) ∧
    ∀ cursor, c.run tree sql scrollable = .ok cursor →
      ∃ rows stop, cursor.Delivers rows stop ∧ ∀ e, stop = some e → e.isOfSettings = false := by
  obtain ⟨rfl, noReader, filters⟩ := openWith_eq_ok opened
  cases parsed : Statement.parse sql with
  | error e =>
    have fails : c.run tree sql scrollable = .error e := by
      rw [run, parsed]
      rfl
    refine ⟨fun e' fails' settings => ?_, fun cursor succeeds => ?_⟩
    · cases fails.symm.trans fails'
      cases settings.symm.trans (Statement.failsOnly_parse sql e parsed)
    · cases fails.symm.trans succeeds
  | ok statement =>
    cases from? : statement.from? with
    | none =>
      have runs : c.run tree sql scrollable = _ := run_eq_of_no_table parsed from? scrollable
      obtain ⟨atOnce, later⟩ := not_isOfSettings_of_run (t := .inl .singleEmptyRow) trivial runs
      refine ⟨fun e fails settings => ?_, later⟩
      cases settings.symm.trans (atOnce e fails)
    | some table =>
      have accepted : c.Accepted := ⟨catalog, by rw [opened, ← noReader]⟩
      obtain ⟨declared, types⟩ := accepted.exists_declaredTypes table.name
      have yields := yields_openTable filters noReader tree table.name
      cases result : c.openTable tree table.name with
      | error e =>
        have fails : c.run tree sql scrollable = .error e := by
          rw [run, parsed]
          simp only [from?, types, result, bind, Except.bind]
        refine ⟨fun e' fails' settings => ?_, fun cursor succeeds => ?_⟩
        · cases fails.symm.trans fails'
          rcases yields.1 e result with other | leaves
          · cases settings.symm.trans other
          · exact ⟨statement, table, rfl, from?, leaves⟩
        · cases fails.symm.trans succeeds
      | ok t =>
        obtain ⟨atOnce, later⟩ := not_isOfSettings_of_run (yields.2 t result)
          (run_eq parsed from? types result scrollable)
        refine ⟨fun e fails settings => ?_, later⟩
        cases settings.symm.trans (atOnce e fails)

/-- The end of the names of the files is a group that nothing closes, which only a query finds. -/
theorem run_settled_up_to_open_group :
    ∃ c, openWith .standard { path := "d", fixedWidths := some "1-2", columnTypes := some "Int",
                              cipher := some ⟨"xorcipher", ["key"]⟩, indexedFiles := true,
                              fileTailPattern := some "(" } = .ok c ∧
      c.run (.ofFiles []) "SELECT * FROM a" false = .error (.invalidConfiguration .fileNamePattern) ∧
      ∃ statement table, Statement.parse "SELECT * FROM a" = .ok statement ∧
        statement.from? = some table ∧
        c.LeavesOpen table.name (.invalidConfiguration .fileNamePattern) := by
  obtain ⟨c, opened⟩ :
      ∃ c, openWith .standard { path := "d", fixedWidths := some "1-2", columnTypes := some "Int",
                                cipher := some ⟨"xorcipher", ["key"]⟩, indexedFiles := true,
                                fileTailPattern := some "(" } = .ok c :=
    ⟨_, rfl⟩
  have fails : c.run (.ofFiles []) "SELECT * FROM a" false =
      .error (.invalidConfiguration .fileNamePattern) := by
    have parsed : Statement.parse "SELECT * FROM a" = .ok (.selectAll ⟨"a", none⟩) := by decide +kernel
    cases opened
    rw [run, parsed]
    rfl
  exact ⟨c, opened, fails, (run_settled opened (.ofFiles []) "SELECT * FROM a" false).1 _ fails rfl⟩

end Connection

end PlainTables
