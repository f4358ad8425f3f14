import PlainTables.Proofs.Connection.FileSet
import PlainTables.Proofs.Query.AllColumns

/-!
# The columns of the tables of a connection

The columns of a table are distinct up to case where every layer that names columns has checked its names
against the others: those of a text are, the parts of file names and the header of a transposed table are
not. All columns of such a table are selected each at its place.
-/

namespace PlainTables.Connection

/-- The settings of the connection have passed its checks. -/
def Accepted (c : Connection) : Prop :=
  ∃ catalog, openWith catalog c.settings = .ok { c with reader := none }

variable {c : Connection} {tree : FileTree} {name : String}

theorem Accepted.exists_declaredTypes (accepted : c.Accepted) (name : String) :
    ∃ declared, c.declaredTypes name = .ok declared := by
  obtain ⟨catalog, accepted⟩ := accepted
  obtain ⟨_, _, accepted⟩ := bind_eq_ok_iff.mp accepted
  obtain ⟨common, parsed, accepted⟩ := bind_eq_ok_iff.mp accepted
  obtain ⟨own, each, _⟩ := bind_eq_ok_iff.mp accepted
  unfold declaredTypes Settings.columnTypesFor
  have readable {list : Option String} {types : Option (List DataType)}
      (parsed : list.mapM DataType.parseList = .ok types) (text : String) (given : list = some text) :
      ∃ declared, DataType.parseList text = .ok declared := by
    subst given
    obtain ⟨declared, read, _⟩ := bind_eq_ok_iff.mp parsed
    exact ⟨declared, read⟩
  cases ownTypes : (c.settings.table? name).bind TableSettings.columnTypes with
  | some text =>
    obtain ⟨table, found, types⟩ := Option.bind_eq_some_iff.mp ownTypes
    obtain ⟨entry, isEntry, rfl⟩ := Option.map_eq_some_iff.mp found
    obtain ⟨types', parsed'⟩ := exists_of_mapM_eq_ok each (List.mem_of_find?_eq_some isEntry)
    exact readable parsed' text types
  | none =>
    cases types : c.settings.columnTypes with
    | none => exact ⟨[], rfl⟩
    | some text => exact readable parsed text types

/-- The names that are not checked when a table is opened: the parts of file names are distinct from each
other and from the columns of the text, and so are the names of the header of a transposed table. -/
structure NamesApart (c : Connection) (tree : FileTree) (name : String) : Prop where
  parts : c.settings.transposedLines = 0 → ∀ tagged, c.openText tree name = .ok (.inr tagged) →
    Columns.Distinct c.settings.fileTailParts ∧ ∀ part ∈ c.settings.fileTailParts,
      ∀ column ∈ tagged.inner.columns, Columns.same part column = false
  header : 0 < c.settings.transposedLines → ∀ names, c.meltedHeader name = .ok (some names) →
    Columns.Distinct names

/-- The text of a table has distinct columns, to which those for the parts of file names are added. -/
theorem openText_eq_ok {text : FileTable} (opened : c.openText tree name = .ok text) :
    (∃ t, text = .inl t ∧ Columns.Distinct t.columns) ∨
      ∃ t : TextTable FileSetLines, Columns.Distinct t.columns ∧
        text = .inr (.ofTable t c.settings.fileTailParts c.settings.fileTailPrepend) := by
  unfold openText at opened
  simp only at opened
  split at opened
  · obtain ⟨lines, _, opened⟩ := bind_eq_ok_iff.mp opened
    obtain ⟨t, read, opened⟩ := bind_eq_ok_iff.mp opened
    cases opened
    exact .inr ⟨t, TextTable.distinct_of_ofLines read, rfl⟩
  · obtain ⟨bytes, _, opened⟩ := bind_eq_ok_iff.mp opened
    obtain ⟨plain, _, opened⟩ := bind_eq_ok_iff.mp opened
    obtain ⟨t, read, opened⟩ := bind_eq_ok_iff.mp opened
    cases opened
    exact .inl ⟨t, rfl, TextTable.distinct_of_ofLines read⟩

theorem distinct_of_openTable {t : Table} (opened : c.openTable tree name = .ok t)
    (apart : c.NamesApart tree name) : Columns.Distinct (RecordSource.columns t) := by
  unfold openTable at opened
  obtain ⟨text, read, opened⟩ := bind_eq_ok_iff.mp opened
  split at opened
  · rename_i regular
    cases opened
    obtain ⟨t, rfl, own⟩ | ⟨t, own, rfl⟩ := openText_eq_ok read
    · exact own
    · obtain ⟨parts, new⟩ := apart.parts regular _ read
      exact TaggedTable.distinct_ofTable own parts new _
  · -- A transposed table has the names of its header, and none of those of its text.
    rename_i transposed
    obtain ⟨header, configured, opened⟩ := bind_eq_ok_iff.mp opened
    obtain ⟨melted, melts, opened⟩ := bind_eq_ok_iff.mp opened
    cases opened
    obtain ⟨named, numbered⟩ := MeltedTable.columns_of_ofTable melts
    cases header with
    | some names =>
      have columns : RecordSource.columns melted = names := named names rfl
      change Columns.Distinct (RecordSource.columns melted)
      rw [columns]
      exact apart.header (Nat.pos_of_ne_zero transposed) names configured
    | none =>
      obtain ⟨count, columns⟩ := numbered rfl
      change Columns.Distinct melted.columns
      rw [columns]
      exact distinct_numberedNames count

theorem run_eq {sql : String} {statement : Statement} {table : NamedTable} {t : Table}
    {declared : List DataType} (parsed : Statement.parse sql = .ok statement)
    (named : statement.from? = some table) (types : c.declaredTypes table.name = .ok declared)
    (opened : c.openTable tree table.name = .ok t) (scrollable : Bool) :
    c.run tree sql scrollable =
      (statement.run t { declared, formats := c.settings.formats, scrollable }).mapError
        (fun failed => failed.error) := by
  rw [run, parsed]
  simp only [named, types, opened, bind, Except.bind, pure, Except.pure]
  cases statement.run t { declared, formats := c.settings.formats, scrollable } <;> rfl

/-- Where no names repeat each other, the columns of a table are distinct, and all of them are selected
with the typed value of each field at its place, up to the first error. -/
theorem selects_distinct_columns (accepted : c.Accepted) {t : Table}
    (opened : c.openTable tree name = .ok t) (apart : c.NamesApart tree name) :
    Columns.Distinct (RecordSource.columns t) ∧
    ∃ declared, c.declaredTypes name = .ok declared ∧
    ∀ sql alias?, Statement.parse sql = .ok (.selectAll ⟨name, alias?⟩) →
    ∀ records stop rows ending, RecordSource.Reads t records stop →
      Scan.typedRecords (.ofAll ⟨name, alias?⟩ (RecordSource.columns t)
        { declared, formats := c.settings.formats }) stop records = (rows, ending) →
      (∃ cursor, c.run tree sql false = .ok cursor ∧
        cursor.columns.names = RecordSource.columns t ∧ cursor.Delivers rows ending) ∧
      match ending with
      | none => ∃ cursor, c.run tree sql true = .ok cursor ∧
          cursor.columns.names = RecordSource.columns t ∧ cursor.Delivers rows none
      | some e => c.run tree sql true = .error e := by
  have distinct := distinct_of_openTable opened apart
  obtain ⟨declared, types⟩ := accepted.exists_declaredTypes name
  refine ⟨distinct, declared, types, fun sql alias? parsed records stop rows ending reads typed => ?_⟩
  have runs := run_eq parsed rfl types opened
  obtain ⟨⟨cursor, streamed, names, delivers⟩, whole⟩ := Statement.run_selectAll ⟨name, alias?⟩
    { declared, formats := c.settings.formats } distinct reads typed
  refine ⟨⟨cursor, ?_, names, delivers⟩, ?_⟩
  · rw [runs false, streamed, Except.mapError]
  · cases ending with
    | none =>
      obtain ⟨cursor, succeeds, names, delivers⟩ := whole
      exact ⟨cursor, by rw [runs true, succeeds, Except.mapError], names, delivers⟩
    | some e =>
      obtain ⟨failed, fails, same⟩ := whole
      rw [runs true, fails]
      exact congrArg Except.error same

/-- A header in which an empty name is repaired, with a record that is short. -/
theorem selects_distinct_columns_of_repaired_header :
    ∃ cursor, run ⟨{ path := "d", defectiveHeaders := true }, none, none, none⟩
        (.ofFiles [("d/t.csv", Utf8.encode "id,,Id2\n1,x,y\n2\n".toList)]) "SELECT * FROM t" false =
          .ok cursor ∧
      cursor.columns.names = ["id", "COLUMN2", "Id2"] ∧
      cursor.Delivers [[.integer 1, .text "x", .text "y"], [.integer 2, .null, .null]] none := by
  have read : (openTable ⟨{ path := "d", defectiveHeaders := true }, none, none, none⟩
      (.ofFiles [("d/t.csv", Utf8.encode "id,,Id2\n1,x,y\n2\n".toList)]) "t").map (fun t =>
        (RecordSource.columns t, (RecordSource.outcomeWithin id 5 t).map fun outcome =>
          Scan.typedRecords (.ofAll ⟨"t", none⟩ (RecordSource.columns t) {}) outcome.2 outcome.1)) =
      .ok (["id", "COLUMN2", "Id2"],
        some ([[.integer 1, .text "x", .text "y"], [.integer 2, .null, .null]], none)) := by
    decide +kernel
  obtain ⟨t, opened, same⟩ := exists_of_map_eq_ok read
  obtain ⟨columns, typed⟩ := Prod.mk.inj same
  obtain ⟨⟨records, stop⟩, found, typed⟩ := Option.map_eq_some_iff.mp typed
  obtain ⟨states, reads, rfl⟩ := RecordSource.gives_of_outcomeWithin found
  rw [List.map_id] at typed
  have notIndexed : (openText ⟨{ path := "d", defectiveHeaders := true }, none, none, none⟩
      (.ofFiles [("d/t.csv", Utf8.encode "id,,Id2\n1,x,y\n2\n".toList)]) "t").map Sum.isRight =
      .ok false := by decide +kernel
  have apart : NamesApart ⟨{ path := "d", defectiveHeaders := true }, none, none, none⟩
      (.ofFiles [("d/t.csv", Utf8.encode "id,,Id2\n1,x,y\n2\n".toList)]) "t" := by
    refine ⟨fun _ tagged text => ?_, fun transposed => absurd transposed (by decide)⟩
    rw [text] at notIndexed
    cases notIndexed
  obtain ⟨_, declared, types, selects⟩ := selects_distinct_columns ⟨.standard, rfl⟩ opened apart
  cases types
  obtain ⟨⟨cursor, runs, names, delivers⟩, -⟩ := selects "SELECT * FROM t" none (by decide +kernel)
    states stop _ _ reads typed
  exact ⟨cursor, runs, names.trans columns, delivers⟩

/-- A part of a file name that repeats a column of the text: there are two columns of one name, and the
value of the text stands in both of them. -/
theorem columns_repeat_part :
    ∃ c t cursor,
      ofSettings { path := "d", indexedFiles := true, fileTailPattern := some "-(.)",
                   fileTailParts := ["ID"] } = .ok c ∧
      c.openTable (.ofFiles [("d/a-7.csv", Utf8.encode "id,v\n1,x\n".toList)]) "a" = .ok t ∧
      RecordSource.columns t = ["id", "v", "ID"] ∧
      ¬ Columns.Distinct (RecordSource.columns t) ∧
      RecordSource.Gives RecordSource.fields t ([[some "1", some "x", some "7"]], none) ∧
      c.run (.ofFiles [("d/a-7.csv", Utf8.encode "id,v\n1,x\n".toList)]) "SELECT * FROM a" false =
        .ok cursor ∧
      (cursor.fetchWithin 2).1 = ([[.integer 1, .text "x", .integer 1]], none) := by
  obtain ⟨c, settled⟩ : ∃ c, ofSettings { path := "d", indexedFiles := true,
                                          fileTailPattern := some "-(.)",
                                          fileTailParts := ["ID"] } = .ok c := ⟨_, rfl⟩
  have place : c.settings.fileSetPlace "a" = some ("d", "a") := by
    cases settled
    decide +kernel
  have captures : (NamePattern.ofFileNames? (c.settings.fileSetPattern "a")).map
      (fun p => p.program.captures? "a-7.csv") = some (some ["7"]) := by
    cases settled
    decide +kernel
  obtain ⟨p, parsed, captures⟩ := Option.map_eq_some_iff.mp captures
  have set : c.openFileSet (.ofFiles [("d/a-7.csv", Utf8.encode "id,v\n1,x\n".toList)]) "a" =
      .ok { layout := c.settings.fileSetLayout c.cipher
            files := [⟨some (Utf8.encode "id,v\n1,x\n".toList), ["7"]⟩] } := by
    refine openFileSet_eq [⟨"a-7.csv", some (Utf8.encode "id,v\n1,x\n".toList)⟩]
      place (by decide +kernel) parsed ?_
    rw [FileSetLines.inOrder_eq_of_perm (by simp) (.refl _) (List.pairwise_singleton _ _)]
    simp [FileSetLines.matching?, captures]
  have read : (c.openTable (.ofFiles [("d/a-7.csv", Utf8.encode "id,v\n1,x\n".toList)]) "a").map
      (fun t => (RecordSource.columns t, RecordSource.outcomeWithin RecordSource.fields 3 t)) =
      .ok (["id", "v", "ID"], some ([[some "1", some "x", some "7"]], none)) := by
    cases settled
    rw [openTable, openText_of_openFileSet rfl rfl set]
    decide +kernel
  have selected : (c.openTable (.ofFiles [("d/a-7.csv", Utf8.encode "id,v\n1,x\n".toList)]) "a").map
      (fun t => ((Statement.selectAll ⟨"a", none⟩).run t { formats := c.settings.formats }).toOption.map
        fun cursor => (cursor.fetchWithin 2).1) =
      .ok (some ([[.integer 1, .text "x", .integer 1]], none)) := by
    cases settled
    rw [openTable, openText_of_openFileSet rfl rfl set]
    decide +kernel
  obtain ⟨t, opened, columns, gives⟩ := RecordSource.exists_gives_of_map read
  rw [opened] at selected
  obtain ⟨cursor, succeeds, fetched⟩ := Option.map_eq_some_iff.mp (Except.ok.inj selected)
  have parsed : Statement.parse "SELECT * FROM a" = .ok (.selectAll ⟨"a", none⟩) := by decide +kernel
  have types : c.declaredTypes "a" = .ok [] := by cases settled; rfl
  have runs := run_eq parsed rfl types opened false
  refine ⟨c, t, cursor, settled, opened, columns, ?_, gives, ?_, fetched⟩
  · rw [columns]
    decide
  · rw [runs]
    generalize (Statement.selectAll ⟨"a", none⟩).run t { formats := c.settings.formats } = result
      at succeeds
    cases result with
    | error failed => cases succeeds
    | ok found => exact congrArg Except.ok (Option.some.inj succeeds)

end PlainTables.Connection
