import PlainTables.Connection
import PlainTables.Proofs.Lines.Directory
import PlainTables.Proofs.Records.FileSetRun
import PlainTables.Proofs.Text.Utf8

/-!
# Reading a set of files

A set of files is read as the concatenation of its files: in the order of the bytes of their names,
every file gives the records that it has when it is read alone.
-/

namespace PlainTables

open ByteLines FileSetLines TextLayout

namespace FileSetLines

/-- The files of a set are the entries whose whole names match, in the order of the bytes of the
names. -/
def InNameOrder (pattern : String) (entries : List DirectoryEntry) (files : List SetFile) : Prop :=
  ∃ p, NamePattern.ofFileNames? pattern = some p ∧
    ∃ sorted : List DirectoryEntry, sorted.Perm entries ∧
      sorted.Pairwise (fun a b => Utf8.encode a.name.toList ≤ Utf8.encode b.name.toList) ∧
      files = sorted.filterMap fun entry =>
        (p.program.captures? entry.name).map fun values => ⟨entry.content, values⟩

theorem ofDirectory_inNameOrder {l : FileSetLayout} {pattern : String}
    {entries : List DirectoryEntry} {lines : FileSetLines}
    (indexed : FileSetLines.ofDirectory l pattern entries = .ok lines) :
    lines = before l lines.files [] false ∧ InNameOrder pattern entries lines.files := by
  cases parsed : NamePattern.ofFileNames? pattern with
  | none =>
    rw [FileSetLines.ofDirectory, parsed] at indexed
    cases indexed
  | some p =>
    rw [ofDirectory_eq l parsed] at indexed
    cases indexed
    exact ⟨rfl, p, parsed, _, List.mergeSort_perm _ _,
      (pairwise_inOrder entries).imp fun le => Utf8.encode_le_encode le, rfl⟩

end FileSetLines

/-- What a connection drops from the later files of a set is what its table reads in the first one. -/
theorem Settings.laterFiles_layoutFor (s : Settings) (notTransposed : s.transposedLines = 0)
    (w : Option FixedWidths) (name : String) (cipher : Option Cipher) :
    (s.layoutFor w name).laterFiles cipher = s.fileSetLayout cipher := by
  simp only [TextLayout.laterFiles, layoutFor, fileSetLayout, notTransposed, Nat.add_zero]

namespace TaggedTable

variable {o : TextLayout} {cipher : Option Cipher}

/-- A set of files gives the records that its files give alone, one file after the other, each with the
values of its file's name. It fails where a file fails. -/
theorem gives_files (strict : o.ignoreUnparseableLines = false) {pattern : String}
    {entries : List DirectoryEntry} {lines : FileSetLines}
    (indexed : FileSetLines.ofDirectory (o.laterFiles cipher) pattern entries = .ok lines)
    (text : SetFile → List UInt8)
    (plain : ∀ file ∈ lines.files, FileSetLines.openFile cipher file = .ok (ofBytes (text file)))
    (opens : ∀ file ∈ lines.files, text file ≠ [] → o.Opens (text file))
    (oneLine : ∀ file ∈ lines.files, text file ≠ [] → o.HeaderOnOneLine (text file))
    (holds : ∀ file ∈ lines.files.head?, o.HoldsTop (text file))
    (names : List String) (prepended : Bool) :
    InNameOrder pattern entries lines.files ∧
    ((∃ table outcomes, TextTable.ofLines o lines = .ok table ∧
        List.Forall₂ (fun file => o.ReadsAlone (text file) file.values) lines.files outcomes ∧
        RecordSource.Gives RecordSource.fields (ofTable table names prepended)
          ((Outcome.joined outcomes).map fun record =>
            addValues prepended table.columns.length record.1 record.2)) ∨
      (∀ file ∈ lines.files, text file = []) ∧
        ∃ e, TextTable.ofLines o lines = .error e ∧
          TextTable.ofLines o (ofBytes []) = .error e) := by
  obtain ⟨start, order⟩ := ofDirectory_inNameOrder indexed
  refine ⟨order, ?_⟩
  rw [start]
  generalize lines.files = files at plain opens oneLine holds
  have oneLineAll : ∀ file ∈ files, o.HeaderOnOneLine (text file) := by
    intro file mem
    by_cases empty : text file = []
    · rw [empty]
      exact headerOnOneLine_nil o
    · exact oneLine file mem empty
  obtain ⟨header, preamble, s, whole, top, run, readable⟩ := run_set strict plain oneLineAll holds
  obtain ⟨table, opening, gives⟩ := TextTable.ofLines_of_top strict top run
  by_cases usable : o.Opens []
  · left
    have opensAll : ∀ file ∈ files, o.Opens (text file) := by
      intro file mem
      by_cases empty : text file = []
      · rw [empty]
        exact usable
      · exact opens file mem empty
    obtain ⟨⟨outcomes, alone, same⟩, columns, settled⟩ := readable opensAll usable
    rw [settled] at opening
    refine ⟨table columns, outcomes, opening, alone, ?_⟩
    have tagged := gives_ofTable (gives columns).2 names prepended
    rw [← same, Outcome.map_map]
    exact tagged
  · right
    obtain ⟨e, failed, emptyFails⟩ := exists_error_of_not_opens strict usable
    rw [columnsOf_eq_error failed] at opening
    refine ⟨fun file mem => ?_, e, opening, emptyFails⟩
    by_contra nonempty
    exact usable (opens_nil_of_opens strict (oneLine file mem nonempty) (opens file mem nonempty))

/-- Three files with headers, one of them empty: a record over two lines, a preamble before a header
that is repeated, and a quote that is not closed. -/
theorem gives_files_up_to_open_quote :
    ∃ lines table,
      FileSetLines.ofDirectory (laterFiles { commentChar := some '#' } none) "t(.).csv"
          [⟨"t3.csv", some (Utf8.encode "# x\n\nid,name\n2,c\n\"3\n".toList)⟩, ⟨"other", none⟩,
            ⟨"t1.csv", some (Utf8.encode "id,name\n1,\"a\nb\"\n\n".toList)⟩, ⟨"t2.csv", some []⟩] =
        .ok lines ∧
      TextTable.ofLines { commentChar := some '#' } lines = .ok table ∧
      table.columns = ["id", "name"] ∧
      RecordSource.Gives RecordSource.fields (ofTable table ["part"] true)
        ([[some "1", some "1", some "a\nb"], [some "1", some "", none], [some "3", some "2", some "c"]],
          some (.unterminatedQuote "\"3")) := by
  have sorted (a b c d : Option (List UInt8)) :
      ([⟨"t3.csv", a⟩, ⟨"other", b⟩, ⟨"t1.csv", c⟩, ⟨"t2.csv", d⟩] : List DirectoryEntry).mergeSort
        (fun a b => (compare a.name b.name).isLE) =
      [⟨"other", b⟩, ⟨"t1.csv", c⟩, ⟨"t2.csv", d⟩, ⟨"t3.csv", a⟩] := by
    have other_third : (compare "t3.csv" "other").isLE = false := by decide
    have other_first : (compare "other" "t1.csv").isLE = true := by decide
    have first_second : (compare "t1.csv" "t2.csv").isLE = true := by decide
    have first_third : (compare "t3.csv" "t1.csv").isLE = false := by decide
    have second_third : (compare "t3.csv" "t2.csv").isLE = false := by decide
    simp [List.mergeSort, List.MergeSort.Internal.splitInTwo, other_third, other_first,
      first_second, first_third, second_third]
  have captures : (NamePattern.ofFileNames? "t(.).csv").map (fun p =>
      ["other", "t1.csv", "t2.csv", "t3.csv"].map p.program.captures?) =
      some [none, some ["1"], some ["2"], some ["3"]] := by decide +kernel
  obtain ⟨p, parsed, captures⟩ := Option.map_eq_some_iff.mp captures
  simp only [List.map_cons, List.map_nil, List.cons.injEq, and_true] at captures
  obtain ⟨other, first, second, third⟩ := captures
  have indexed : FileSetLines.ofDirectory (laterFiles { commentChar := some '#' } none) "t(.).csv"
      [⟨"t3.csv", some (Utf8.encode "# x\n\nid,name\n2,c\n\"3\n".toList)⟩, ⟨"other", none⟩,
        ⟨"t1.csv", some (Utf8.encode "id,name\n1,\"a\nb\"\n\n".toList)⟩, ⟨"t2.csv", some []⟩] =
      .ok { layout := laterFiles { commentChar := some '#' } none, files :=
        [⟨some (Utf8.encode "id,name\n1,\"a\nb\"\n\n".toList), ["1"]⟩, ⟨some [], ["2"]⟩,
          ⟨some (Utf8.encode "# x\n\nid,name\n2,c\n\"3\n".toList), ["3"]⟩] } := by
    simp only [FileSetLines.ofDirectory, parsed, sorted, List.filterMap_cons, other, first, second,
      third, Option.map_none, Option.map_some, List.filterMap_nil]
  obtain ⟨_, read | ⟨empty, _⟩⟩ := gives_files (o := { commentChar := some '#' }) rfl indexed
    (fun file => file.content.getD [])
    (by
      intro file mem
      simp only [List.mem_cons, List.not_mem_nil, or_false] at mem
      rcases mem with rfl | rfl | rfl <;> rfl)
    (by decide +kernel) (by decide +kernel) (by decide +kernel) ["part"] true
  · obtain ⟨table, outcomes, opened, alone, gives⟩ := read
    have columns : table.columns = ["id", "name"] :=
      Except.ok.inj ((congrArg (Except.map TextTable.columns) opened).symm.trans (by decide +kernel))
    rw [columns] at gives
    cases alone with
    | cons first alone => cases alone with
      | cons second alone => cases alone with
        | cons third alone =>
          cases alone
          obtain rfl := first.unique (readsAlone_of_map 5 ["id", "name"]
            [[some "1", some "a\nb"], [some ""]] none (by decide +kernel))
          obtain rfl := second.unique (readsAlone_of_map 5 [] [] none (by decide +kernel))
          obtain rfl := third.unique (readsAlone_of_map 5 ["id", "name"] [[some "2", some "c"]]
            (some (.unterminatedQuote "\"3")) (by decide +kernel))
          exact ⟨_, table, indexed, opened, columns, gives⟩
  · exact absurd (empty _ List.mem_cons_self) (by decide)

end TaggedTable

end PlainTables
