import PlainTables.Proofs.Lines.Directory
import PlainTables.Proofs.Lines.EmptyFile
import PlainTables.Proofs.Records.Correspondence

/-!
# Empty files in a table of several files

An empty file that has another file of its set before it adds nothing to the table: the columns and the
records stay the same. The first file is different, for its top is what the table reads itself; if it
is empty, the top of the next file is dropped and the table takes a record for its header.
-/

namespace PlainTables.TaggedTable

open FileSetLines

/-- An empty file that is not the first one of its set changes neither the columns nor the records and
their values of file names, whatever the layout is. -/
theorem gives_despite_empty_file (o : TextLayout) (l : FileSetLayout) {pattern : String}
    {p : NamePattern} (parsed : NamePattern.ofFileNames? pattern = some p)
    (entries more : List DirectoryEntry) (added : DirectoryEntry)
    (distinct : (more.map (·.name)).Nodup) (listed : more.Perm (added :: entries))
    (empty : added.content = some [])
    (named : (p.program.captures? added.name).isSome)
    (notFirst : ∃ entry ∈ entries,
      (p.program.captures? entry.name).isSome ∧ entry.name < added.name)
    (names : List String) (prepended : Bool) :
    ∃ lines padded, ofDirectory l pattern entries = .ok lines ∧
      ofDirectory l pattern more = .ok padded ∧
      ((∃ e, TextTable.ofLines o lines = .error e ∧ TextTable.ofLines o padded = .error e) ∨
        ∃ table table', TextTable.ofLines o lines = .ok table ∧
          TextTable.ofLines o padded = .ok table' ∧
          (ofTable table' names prepended).columns = (ofTable table names prepended).columns ∧
          ∃ outcome, RecordSource.Gives shown (ofTable table names prepended) outcome ∧
            RecordSource.Gives shown (ofTable table' names prepended) outcome) := by
  obtain ⟨values, captures⟩ := Option.isSome_iff_exists.mp named
  obtain ⟨first, front, back, files, files'⟩ :=
    exists_files_append distinct listed captures notFirst
  rw [empty] at files'
  refine ⟨_, _, ofDirectory_eq l parsed entries, ofDirectory_eq l parsed more, ?_⟩
  rw [files, files']
  have related : Padding l (before l (first :: (front ++ back)) [] false)
      (before l (first :: (front ++ ⟨some [], values⟩ :: back)) [] false) :=
    .unopened (.insert front back values)
  exact opens_alike (correspondence_padding l) o related names prepended

/-- An empty file between two files with headers, in whatever order the directory lists them. -/
theorem gives_despite_empty_file_between :
    ∃ lines padded table table',
      ofDirectory {} "t(.).csv" [⟨"t3.csv", some (Utf8.encode "id,name\n2,b\n".toList)⟩,
          ⟨"t1.csv", some (Utf8.encode "id,name\n1,a\n".toList)⟩] = .ok lines ∧
      ofDirectory {} "t(.).csv" [⟨"t1.csv", some (Utf8.encode "id,name\n1,a\n".toList)⟩,
          ⟨"t3.csv", some (Utf8.encode "id,name\n2,b\n".toList)⟩, ⟨"t2.csv", some []⟩] =
        .ok padded ∧
      TextTable.ofLines {} lines = .ok table ∧ TextTable.ofLines {} padded = .ok table' ∧
      (ofTable table ["part"] true).columns = ["part", "id", "name"] ∧
      (ofTable table' ["part"] true).columns = ["part", "id", "name"] ∧
      RecordSource.Gives shown (ofTable table ["part"] true)
        ([([some "1", some "1", some "a"], ["1"]), ([some "3", some "2", some "b"], ["3"])], none) ∧
      RecordSource.Gives shown (ofTable table' ["part"] true)
        ([([some "1", some "1", some "a"], ["1"]), ([some "3", some "2", some "b"], ["3"])], none) := by
  have captures : (NamePattern.ofFileNames? "t(.).csv").map (fun p =>
      ["t1.csv", "t2.csv", "t3.csv"].map p.program.captures?) =
      some [some ["1"], some ["2"], some ["3"]] := by decide +kernel
  obtain ⟨p, parsed, captures⟩ := Option.map_eq_some_iff.mp captures
  simp only [List.map_cons, List.map_nil, List.cons.injEq, and_true] at captures
  obtain ⟨first, second, third⟩ := captures
  have files (a b : Option (List UInt8)) :
      (inOrder [⟨"t3.csv", b⟩, ⟨"t1.csv", a⟩]).filterMap (matching? p) =
        [⟨a, ["1"]⟩, ⟨b, ["3"]⟩] := by
    rw [inOrder_eq_of_perm (by simp) (List.Perm.swap _ _ [])
      (List.pairwise_pair.mpr (by decide : (compare "t1.csv" "t3.csv").isLE))]
    simp [matching?, first, third]
  obtain ⟨lines, padded, indexed, indexed', opened⟩ := gives_despite_empty_file {} {} parsed
    [⟨"t3.csv", some (Utf8.encode "id,name\n2,b\n".toList)⟩,
      ⟨"t1.csv", some (Utf8.encode "id,name\n1,a\n".toList)⟩]
    [⟨"t1.csv", some (Utf8.encode "id,name\n1,a\n".toList)⟩,
      ⟨"t3.csv", some (Utf8.encode "id,name\n2,b\n".toList)⟩, ⟨"t2.csv", some []⟩]
    ⟨"t2.csv", some []⟩ (by decide) (by decide) rfl (by rw [second]; rfl)
    ⟨_, List.mem_cons_of_mem _ List.mem_cons_self, by rw [first]; rfl, by decide⟩ ["part"] true
  have start := indexed
  rw [ofDirectory_eq {} parsed, files] at start
  cases start
  have read : (TextTable.ofLines {} ({ layout := {}, files :=
      [⟨some (Utf8.encode "id,name\n1,a\n".toList), ["1"]⟩,
        ⟨some (Utf8.encode "id,name\n2,b\n".toList), ["3"]⟩] } : FileSetLines)).map (fun t =>
          ((ofTable t ["part"] true).columns,
            RecordSource.outcomeWithin shown 4 (ofTable t ["part"] true))) =
      .ok (["part", "id", "name"],
        some ([([some "1", some "1", some "a"], ["1"]), ([some "3", some "2", some "b"], ["3"])], none)) := by
    decide +kernel
  obtain ⟨table, opened', columns, found⟩ := RecordSource.exists_gives_of_map read
  rcases opened with ⟨e, failed, _⟩ | ⟨t, table', opened, padded', same, outcome, gives, gives'⟩
  · cases opened'.symm.trans failed
  · cases opened'.symm.trans opened
    obtain rfl := gives.unique found
    exact ⟨_, padded, table, table', indexed, indexed', opened, padded', columns, same.trans columns,
      gives, gives'⟩

/-- An empty file before all others takes the place of the first one: of the next file the top is
dropped, and a record is taken for the header. -/
theorem columns_of_first_empty_file :
    ∃ lines padded table table',
      ofDirectory {} "t(.).csv" [⟨"t2.csv", some (Utf8.encode "id,name\n1,a\n2,b\n".toList)⟩] =
        .ok lines ∧
      ofDirectory {} "t(.).csv" [⟨"t1.csv", some []⟩,
          ⟨"t2.csv", some (Utf8.encode "id,name\n1,a\n2,b\n".toList)⟩] = .ok padded ∧
      TextTable.ofLines {} lines = .ok table ∧ TextTable.ofLines {} padded = .ok table' ∧
      (ofTable table ["part"] false).columns = ["id", "name", "part"] ∧
      (ofTable table' ["part"] false).columns = ["1", "a", "part"] := by
  have captures : (NamePattern.ofFileNames? "t(.).csv").map (fun p =>
      ["t1.csv", "t2.csv"].map p.program.captures?) = some [some ["1"], some ["2"]] := by
    decide +kernel
  obtain ⟨p, parsed, captures⟩ := Option.map_eq_some_iff.mp captures
  simp only [List.map_cons, List.map_nil, List.cons.injEq, and_true] at captures
  obtain ⟨first, second⟩ := captures
  have alone (a : Option (List UInt8)) :
      (inOrder [⟨"t2.csv", a⟩]).filterMap (matching? p) = [⟨a, ["2"]⟩] := by
    rw [inOrder_eq_of_perm (by simp) (.refl _) (List.pairwise_singleton _ _)]
    simp [matching?, second]
  have both (a b : Option (List UInt8)) :
      (inOrder [⟨"t1.csv", a⟩, ⟨"t2.csv", b⟩]).filterMap (matching? p) =
        [⟨a, ["1"]⟩, ⟨b, ["2"]⟩] := by
    rw [inOrder_eq_of_perm (by simp) (.refl _)
      (List.pairwise_pair.mpr (by decide : (compare "t1.csv" "t2.csv").isLE))]
    simp [matching?, first, second]
  have opened : (TextTable.ofLines {} ({ layout := {}, files :=
      [⟨some (Utf8.encode "id,name\n1,a\n2,b\n".toList), ["2"]⟩] } : FileSetLines)).map
        TextTable.columns = .ok ["id", "name"] := by decide +kernel
  have opened' : (TextTable.ofLines {} ({ layout := {}, files := [⟨some [], ["1"]⟩,
      ⟨some (Utf8.encode "id,name\n1,a\n2,b\n".toList), ["2"]⟩] } : FileSetLines)).map
        TextTable.columns = .ok ["1", "a"] := by decide +kernel
  obtain ⟨table, opened, columns⟩ := exists_of_map_eq_ok opened
  obtain ⟨table', opened', columns'⟩ := exists_of_map_eq_ok opened'
  refine ⟨_, _, table, table', ofDirectory_eq {} parsed _, ofDirectory_eq {} parsed _, ?_, ?_, ?_, ?_⟩
  · rw [alone]
    exact opened
  · rw [both]
    exact opened'
  · exact congrArg (· ++ ["part"]) columns
  · exact congrArg (· ++ ["part"]) columns'

end PlainTables.TaggedTable
