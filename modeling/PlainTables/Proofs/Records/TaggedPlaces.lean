import PlainTables.Proofs.Lines.Directory
import PlainTables.Proofs.Records.FileOrigin
import PlainTables.Records.Tagged

/-!
# The places of file name values

The parts of a file's name stand under their own columns, and the fields of a record under those of its file.
Only a record with more fields than its file has columns moves the values that are appended to it.
-/

namespace PlainTables.TaggedTable

section

variable {σ : Type} [RecordSource σ] {t : TaggedTable σ}

theorem field_of_prepended (prepended : t.prepended = true) {i : Nat} (inside : i < t.values.length) :
    RecordSource.field t i = t.values[i]? := by
  change t.field i = _
  rw [field, if_pos prepended, if_pos inside]

theorem field_below_prepended (prepended : t.prepended = true) (j : Nat) :
    RecordSource.field t (t.values.length + j) = RecordSource.field t.inner j := by
  have beyond : ¬ t.values.length + j < t.values.length := by omega
  change t.field (t.values.length + j) = _
  rw [field, if_pos prepended, if_neg beyond, Nat.add_sub_cancel_left]

theorem field_of_appended (appended : t.prepended = false) {j : Nat} (inside : j < t.ownWidth) :
    RecordSource.field t j = RecordSource.field t.inner j := by
  change t.field j = _
  rw [field, appended, if_neg Bool.false_ne_true, if_pos inside]

theorem field_beyond_appended (appended : t.prepended = false) (i : Nat) :
    RecordSource.field t (t.ownWidth + i) = t.values[i]? := by
  have beyond : ¬ t.ownWidth + i < t.ownWidth := by omega
  change t.field (t.ownWidth + i) = _
  rw [field, appended, if_neg Bool.false_ne_true, if_neg beyond, Nat.add_sub_cancel_left]

end

/-- The columns of the names have the values, and the other ones have the fields of the record that the file
holds. Behind a record with more fields than these columns, appended values stand behind its last field. -/
structure StandsUnder (t : TaggedTable (TextTable FileSetLines)) (own names values : List String) :
    Prop where
  columns : RecordSource.columns t = if t.prepended then names ++ own else own ++ names
  ownFields : ∀ j < own.length, RecordSource.field t (if t.prepended then names.length + j else j) =
    (t.inner.fields[j]?).map Text.trimmed
  value : t.prepended = true ∨ t.inner.fields.length ≤ own.length → ∀ i < names.length,
    RecordSource.field t (if t.prepended then i else own.length + i) = values[i]?
  behind : t.prepended = false → own.length ≤ t.inner.fields.length → ∀ i < names.length,
    RecordSource.field t (t.inner.fields.length + i) = values[i]?

theorem standsUnder {t : TaggedTable (TextTable FileSetLines)} {own names : List String}
    (columns : RecordSource.columns t = if t.prepended then names ++ own else own ++ names)
    (ownColumns : t.inner.columns = own) (count : t.values.length = names.length) :
    StandsUnder t own names t.values := by
  have field (j : Nat) :
      RecordSource.field t.inner j = (t.inner.fields[j]?).map Text.trimmed := rfl
  have width : t.ownWidth = max t.inner.fields.length own.length := by
    rw [← ownColumns]
    rfl
  refine ⟨columns, fun j inside => ?_, fun fits i inside => ?_, fun appended wide i inside => ?_⟩
  · cases place : t.prepended with
    | true =>
      rw [if_pos rfl, ← count, field_below_prepended place, field]
    | false =>
      rw [if_neg Bool.false_ne_true, field_of_appended place (by omega), field]
  · cases place : t.prepended with
    | true => rw [if_pos rfl, field_of_prepended place (by omega)]
    | false =>
      have fits := fits.resolve_left (by simp [place])
      have same : own.length = t.ownWidth := by omega
      rw [if_neg Bool.false_ne_true, same, field_beyond_appended place]
  · have same : t.inner.fields.length = t.ownWidth := by omega
    rw [same, field_beyond_appended appended]

def Follows (o : TextLayout) (l : FileSetLayout) (all : List SetFile) (own columns : List String)
    (prepended : Bool) (t : TaggedTable (TextTable FileSetLines)) : Prop :=
  TextTable.Follows o l all own t.inner ∧ t.columns = columns ∧ t.prepended = prepended

variable {o : TextLayout} {l : FileSetLayout} {all : List SetFile} {own columns : List String}
  {prepended : Bool} {t : TaggedTable (TextTable FileSetLines)}

theorem Follows.next (follows : Follows o l all own columns prepended t) :
    Follows o l all own columns prepended t.next.2 := by
  obtain ⟨inner, sameColumns, place⟩ := follows
  refine ⟨?_, ?_, ?_⟩
  · rw [inner_next]
    exact inner.next.1
  · unfold TaggedTable.next
    split <;> exact sameColumns
  · unfold TaggedTable.next
    split <;> exact place

theorem values_next (delivered : t.next.1 = .ok true) :
    t.next.2.values = RecordSource.fileValues t.next.2.inner := by
  unfold TaggedTable.next at delivered ⊢
  split at delivered
  · cases delivered
  · cases delivered
  · rfl

theorem Follows.hasReadRecord (follows : Follows o l all own columns prepended t)
    (delivered : t.next.1 = .ok true) :
    o.HasReadRecord l all t.next.2.inner.fields t.next.2.inner.lines := by
  rw [result_next] at delivered
  rw [inner_next]
  exact follows.1.next.2 delivered

theorem amid_ofDirectory {pattern : String} {p : NamePattern} {entries : List DirectoryEntry}
    {lines : FileSetLines} (parsed : NamePattern.ofFileNames? pattern = some p)
    (indexed : FileSetLines.ofDirectory l pattern entries = .ok lines) :
    FileSetLines.Amid l lines.files lines := by
  have start : lines = FileSetLines.before l lines.files [] false := by
    rw [FileSetLines.ofDirectory_eq l parsed] at indexed
    cases indexed
    rfl
  rw [start]
  exact .before [] false (List.suffix_refl _)

open FileSetLines in
theorem exists_entry_of_mem {pattern : String} {p : NamePattern} {entries : List DirectoryEntry}
    {lines : FileSetLines} (parsed : NamePattern.ofFileNames? pattern = some p)
    (indexed : ofDirectory l pattern entries = .ok lines) {file : SetFile}
    (mem : file ∈ lines.files) :
    ∃ entry ∈ entries, ∃ values, p.program.captures? entry.name = some values ∧
      values.length = p.groupCount ∧ file = ⟨entry.content, values⟩ := by
  rw [ofDirectory_eq l parsed] at indexed
  cases indexed
  obtain ⟨entry, inSorted, matching⟩ := List.mem_filterMap.mp mem
  obtain ⟨values, captured, rfl⟩ := Option.map_eq_some_iff.mp matching
  refine ⟨entry, (List.mergeSort_perm _ _).mem_iff.mp inSorted, values, captured, ?_, rfl⟩
  obtain ⟨marks, -, rfl⟩ := Option.map_eq_some_iff.mp captured
  rw [List.length_map, List.length_range]
  rfl

/-- Every record that a set of files gives, whatever has been asked of it before, is a record of the file
that the set is amid, and has the values of this file's name in the columns of the names. -/
theorem values_under_columns {pattern : String} {p : NamePattern} {entries : List DirectoryEntry}
    {lines : FileSetLines} {table : TextTable FileSetLines} (names : List String)
    (parsed : NamePattern.ofFileNames? pattern = some p) (named : names.length = p.groupCount)
    (indexed : FileSetLines.ofDirectory l pattern entries = .ok lines)
    (opened : TextTable.ofLines o lines = .ok table) (prepended : Bool) (calls : List SourceCall)
    (delivered : RecordSource.next
      (RecordSource.perform calls (ofTable table names prepended)).2 = (.ok true, t)) :
    ∃ entry ∈ entries, ∃ values before after r, p.program.captures? entry.name = some values ∧
      lines.files = before ++ ⟨entry.content, values⟩ :: after ∧
      o.HoldsRecord l ⟨entry.content, values⟩ t.inner.fields r ∧
      t.inner.lines = FileSetLines.inside l after values r ∧ t.prepended = prepended ∧
      StandsUnder t table.columns names values := by
  have amid := amid_ofDirectory parsed indexed
  generalize shown : RecordSource.columns (ofTable table names prepended) = columns
  have first : Follows o l lines.files table.columns columns prepended
      (ofTable table names prepended) :=
    ⟨TextTable.follows_of_ofLines amid opened, shown, rfl⟩
  have follows := RecordSource.perform_keeps (fun _ => Follows.next)
    (fun _ follows => ⟨follows.1.close, follows.2⟩) first calls
  generalize (RecordSource.perform calls (ofTable table names prepended)).2 = u at delivered follows
  have result : u.next.1 = .ok true := congrArg Prod.fst delivered
  have state : u.next.2 = t := congrArg Prod.snd delivered
  have read := follows.hasReadRecord result
  have values := values_next result
  have follows := follows.next
  rw [state] at read values follows
  obtain ⟨file, after, r, ⟨before, files⟩, holds, reader⟩ := read
  obtain ⟨entry, mem, captures, captured, count, rfl⟩ :=
    exists_entry_of_mem parsed indexed (files ▸ List.mem_append_right _ List.mem_cons_self)
  have values : t.values = captures := by
    rw [values]
    change LineSource.fileValues t.inner.lines = captures
    rw [reader]
    rfl
  obtain ⟨inner, sameColumns, place⟩ := follows
  refine ⟨entry, mem, captures, before, after, r, captured, files.symm, holds, reader, place, ?_⟩
  rw [← values] at count ⊢
  refine standsUnder ?_ inner.columns (count.trans named.symm)
  rw [place]
  exact sameColumns.trans shown.symm

/-- A record that is shorter than the columns of its file. -/
theorem values_under_columns_of_short_record :
    ∃ lines table t, FileSetLines.ofDirectory {} "t(.).csv"
          [⟨"t7.csv", some (Utf8.encode "id,name\n1\n".toList)⟩] = .ok lines ∧
      TextTable.ofLines {} lines = .ok table ∧
      RecordSource.next (RecordSource.perform [] (ofTable table ["part"] false)).2 = (.ok true, t) ∧
      StandsUnder t ["id", "name"] ["part"] ["7"] := by
  have captures : (NamePattern.ofFileNames? "t(.).csv").map (fun p =>
      (p.groupCount, p.program.captures? "t7.csv")) = some (1, some ["7"]) := by decide +kernel
  obtain ⟨p, parsed, captures⟩ := Option.map_eq_some_iff.mp captures
  obtain ⟨count, captured⟩ := Prod.mk.inj captures
  have indexed := FileSetLines.ofDirectory_single {} parsed captured
    (some (Utf8.encode "id,name\n1\n".toList))
  have opens : (TextTable.ofLines {} ({ layout := {}, files :=
      [⟨some (Utf8.encode "id,name\n1\n".toList), ["7"]⟩] } : FileSetLines)).map (fun t =>
        (t.columns, (RecordSource.next (ofTable t ["part"] false)).1)) =
      .ok (["id", "name"], .ok true) := by decide +kernel
  obtain ⟨table, opened, same⟩ := exists_of_map_eq_ok opens
  obtain ⟨columns, result⟩ := Prod.mk.inj same
  have delivered : RecordSource.next (RecordSource.perform [] (ofTable table ["part"] false)).2 =
      (.ok true, (RecordSource.next (ofTable table ["part"] false)).2) := Prod.ext result rfl
  obtain ⟨entry, mem, values, _, _, _, found, _, _, _, _, stands⟩ :=
    values_under_columns ["part"] parsed count.symm indexed opened false [] delivered
  obtain rfl := List.mem_singleton.mp mem
  cases captured.symm.trans found
  rw [columns] at stands
  exact ⟨_, table, _, indexed, opened, delivered, stands⟩

/-- The value that is appended to a record with a field too many does not stand under its column. -/
theorem appended_value_behind_long_record :
    ∃ p lines table t, NamePattern.ofFileNames? "t(.).csv" = some p ∧
      ["part"].length = p.groupCount ∧ p.program.captures? "t7.csv" = some ["7"] ∧
      FileSetLines.ofDirectory {} "t(.).csv"
          [⟨"t7.csv", some (Utf8.encode "id,name\n1,x,y\n".toList)⟩] = .ok lines ∧
      TextTable.ofLines {} lines = .ok table ∧
      RecordSource.next (ofTable table ["part"] false) = (.ok true, t) ∧
      RecordSource.columns t = ["id", "name", "part"] ∧
      RecordSource.field t 2 = some "y" ∧ RecordSource.field t 3 = some "7" := by
  have captures : (NamePattern.ofFileNames? "t(.).csv").map (fun p =>
      (p.groupCount, p.program.captures? "t7.csv")) = some (1, some ["7"]) := by decide +kernel
  obtain ⟨p, parsed, captures⟩ := Option.map_eq_some_iff.mp captures
  obtain ⟨count, captured⟩ := Prod.mk.inj captures
  have indexed := FileSetLines.ofDirectory_single {} parsed captured
    (some (Utf8.encode "id,name\n1,x,y\n".toList))
  have opens : (TextTable.ofLines {} ({ layout := {}, files :=
      [⟨some (Utf8.encode "id,name\n1,x,y\n".toList), ["7"]⟩] } : FileSetLines)).map (fun table =>
        let (result, t) := RecordSource.next (ofTable table ["part"] false)
        (result, RecordSource.columns t, RecordSource.field t 2, RecordSource.field t 3)) =
      .ok (.ok true, ["id", "name", "part"], some "y", some "7") := by decide +kernel
  obtain ⟨table, opened, same⟩ := exists_of_map_eq_ok opens
  simp only [Prod.mk.injEq] at same
  obtain ⟨result, columns, second, third⟩ := same
  exact ⟨p, _, table, _, parsed, count.symm, captured, indexed, opened, Prod.ext result rfl, columns,
    second, third⟩

end PlainTables.TaggedTable
