import PlainTables.Connection
import PlainTables.Proofs.Lines.Directory

/-!
# Sets of files of a connection

The files of a set are found in a directory by the pattern of their names. A table that is made up of them
is a text with the parts of these names.
-/

namespace PlainTables.Connection

open FileSetLines

variable {c : Connection} {tree : FileTree} {name : String}

/-- A set of files is what matches among the entries of its directory, if anything does. -/
theorem openFileSet_eq {directory base : String} (entries : List DirectoryEntry) {p : NamePattern}
    {file : SetFile} {files : List SetFile}
    (place : c.settings.fileSetPlace name = some (directory, base))
    (listed : tree.entries directory = .ok entries)
    (parsed : NamePattern.ofFileNames? (c.settings.fileSetPattern base) = some p)
    (matching : (inOrder entries).filterMap (matching? p) = file :: files) :
    c.openFileSet tree name =
      .ok { layout := c.settings.fileSetLayout c.cipher, files := file :: files } := by
  have whole : FileSetLines.ofTree (c.settings.fileSetLayout c.cipher)
      (c.settings.fileSetPattern base) tree directory =
        .ok { layout := c.settings.fileSetLayout c.cipher, files := file :: files } := by
    rw [FileSetLines.ofTree, listed]
    simp only
    rw [ofDirectory_eq _ parsed, matching]
  unfold openFileSet
  rw [place]
  simp only [whole]
  exact if_neg (Nat.succ_ne_zero _)

theorem openFileSet_numbered (place : c.settings.fileSetPlace "j" = some ("d", "j"))
    (pattern : c.settings.fileSetPattern "j" = "j_(.)\\.csv") (first second : List UInt8) :
    c.openFileSet (.ofFiles [("d/j_1.csv", first), ("d/j_2.csv", second)]) "j" =
      .ok { layout := c.settings.fileSetLayout c.cipher
            files := [⟨some first, ["1"]⟩, ⟨some second, ["2"]⟩] } := by
  have captures : (NamePattern.ofFileNames? "j_(.)\\.csv").map (fun p =>
      ["j_1.csv", "j_2.csv"].map p.program.captures?) = some [some ["1"], some ["2"]] := by
    decide +kernel
  obtain ⟨p, parsed, captures⟩ := Option.map_eq_some_iff.mp captures
  simp only [List.map_cons, List.map_nil, List.cons.injEq, and_true] at captures
  obtain ⟨one, two⟩ := captures
  refine openFileSet_eq [⟨"j_2.csv", some second⟩, ⟨"j_1.csv", some first⟩] place rfl
    (by rw [pattern]; exact parsed) ?_
  rw [inOrder_eq_of_perm (by simp) (List.Perm.swap _ _ [])
    (List.pairwise_pair.mpr (by decide : (compare "j_1.csv" "j_2.csv").isLE))]
  simp [matching?, one, two]

theorem openFileSet_eq_ok {lines : FileSetLines} (found : c.openFileSet tree name = .ok lines) :
    ∃ directory base entries, c.settings.fileSetPlace name = some (directory, base) ∧
      tree.entries directory = .ok entries ∧
      ofDirectory (c.settings.fileSetLayout c.cipher) (c.settings.fileSetPattern base) entries =
        .ok lines ∧ lines.fileCount ≠ 0 := by
  unfold openFileSet at found
  cases place : c.settings.fileSetPlace name with
  | none =>
    rw [place] at found
    cases found
  | some place' =>
    obtain ⟨directory, base⟩ := place'
    rw [place] at found
    refine ⟨directory, base, ?_⟩
    simp only [ofTree] at found
    cases listed : tree.entries directory with
    | error fault =>
      rw [listed] at found
      cases indexed : ofDirectory (c.settings.fileSetLayout c.cipher)
        (c.settings.fileSetPattern base) [] with
      | error e =>
        rw [indexed] at found
        cases e <;> cases found
      | ok none =>
        rw [indexed] at found
        cases found
    | ok entries =>
      refine ⟨entries, rfl, rfl, ?_⟩
      rw [listed] at found
      simp only at found
      cases indexed : ofDirectory (c.settings.fileSetLayout c.cipher) (c.settings.fileSetPattern base)
        entries with
      | error e =>
        rw [indexed] at found
        cases e <;> cases found
      | ok set =>
        rw [indexed] at found
        simp only at found
        split at found
        · cases found
        · rename_i some
          cases found
          exact ⟨rfl, some⟩

theorem openText_of_openFileSet {lines : FileSetLines} (indexed : c.settings.indexedFiles = true)
    (noReader : c.reader = none) (opened : c.openFileSet tree name = .ok lines) :
    c.openText tree name =
      (TextTable.ofLines (c.settings.layoutFor c.fixedWidths name) lines).map fun text =>
        .inr (.ofTable text c.settings.fileTailParts c.settings.fileTailPrepend) := by
  rw [openText, indexed, noReader, opened]
  simp only [Option.isNone_none, Bool.and_self, if_true, bind, Except.bind]
  cases TextTable.ofLines (c.settings.layoutFor c.fixedWidths name) lines <;> rfl

end PlainTables.Connection
