import PlainTables.Proofs.Lines.Correspondence
import PlainTables.Proofs.Lines.FileSet

/-!
# Empty files of a set

An empty file among the files that a set has still to open is passed over: neither the lines nor what
is dropped from other files depend on it. This is so once the set has opened its first file, whose top
is left to the table that is read.
-/

namespace PlainTables.FileSetLines

/-- The same files in the same order, the second time with empty ones among them. -/
inductive Padded : List SetFile → List SetFile → Prop
  | nil : Padded [] []
  | file {file files padded} : Padded files padded → Padded (file :: files) (file :: padded)
  | empty {values files padded} : Padded files padded → Padded files (⟨some [], values⟩ :: padded)

variable {l : FileSetLayout} {files padded : List SetFile} {values values' : List String}

theorem Padded.refl (files : List SetFile) : Padded files files := by
  induction files with
  | nil => exact .nil
  | cons file files ih => exact .file ih

theorem Padded.insert (front back : List SetFile) (values : List String) :
    Padded (front ++ back) (front ++ ⟨some [], values⟩ :: back) := by
  induction front with
  | nil => exact .empty (.refl back)
  | cons file front ih => exact .file ih

theorem Padded.totalSize_eq (padding : Padded files padded) :
    totalSize files = totalSize padded := by
  induction padding with
  | nil => rfl
  | file _ ih => rw [totalSize, totalSize, ih]
  | empty _ ih => rw [totalSize, ← ih]; simp [SetFile.size]

def OpensEmpty (l : FileSetLayout) : Prop :=
  ∀ values, openFile l.cipher ⟨some [], values⟩ = .ok (ByteLines.ofBytes [])

/-- What decrypts one file decrypts an empty one, too. -/
theorem opensEmpty_of_openFile {file : SetFile} {r : ByteLines}
    (opening : openFile l.cipher file = .ok r) : OpensEmpty l := by
  intro values
  obtain ⟨content, values'⟩ := file
  cases cipher : l.cipher with
  | none => rfl
  | some c =>
    rw [cipher] at opening
    cases filter : c.newFilter with
    | ok f =>
      simp only [openFile, Cipher.decryptFile, filter, CryptoFilter.decrypt_nil, bind, Except.bind]
      rfl
    | error e => cases content <;> simp [openFile, Cipher.decryptFile, filter, Except.map, bind,
        Except.bind] at opening

theorem readLine_before_empty (opens : OpensEmpty l) (files : List SetFile)
    (values own : List String) :
    LineSource.readLine (before l (⟨some [], own⟩ :: files) values true) =
      LineSource.readLine (before l files own true) := by
  have top : skipTop l (ByteLines.ofBytes []) = (.ok none, ByteLines.ofBytes []) := by
    have skipped (n : Nat) := LineSource.skip_of_end (r := ByteLines.ofBytes []) rfl n
    have ended (n : Nat) : LineSource.readAfterPreamble l.commentChar (n + 1)
        (ByteLines.ofBytes []) = (.ok none, ByteLines.ofBytes []) := rfl
    cases headers : l.suppressHeaders <;> simp [skipTop, skipped, ended, headers]
  rw [readLine_before_later files values (opens own) top, readLine_inside]
  rfl

theorem readLine_of_openNext_error {openedAny : Bool} {file : SetFile} {e : QueryError}
    {s : FileSetLines}
    (failed : openNext (before l (file :: files) values openedAny) = (.error e, s)) :
    LineSource.readLine (before l (file :: files) values openedAny) = (.error e, s) := by
  have unfolded : LineSource.readLine (before l (file :: files) values openedAny) =
    readFrom (files.length + 3) (before l (file :: files) values openedAny) := rfl
  have closed : (before l (file :: files) values openedAny).current.isSome = false := rfl
  rw [unfolded, readFrom]
  simp only [closed, failed, Bool.false_eq_true, if_false]

/-- Two sets of the same files that read the same file, or are before the same one. Empty files may be
among those that the second one has to open. -/
inductive Padding (l : FileSetLayout) : FileSetLines → FileSetLines → Prop
  | unopened {file : SetFile} {files padded : List SetFile} {values : List String} :
      Padded files padded →
      Padding l (before l (file :: files) values false) (before l (file :: padded) values false)
  | inside {files padded : List SetFile} {values : List String} {r : ByteLines} :
      OpensEmpty l → Padded files padded →
      Padding l (inside l files values r) (inside l padded values r)
  | between {files padded : List SetFile} {values values' : List String} :
      OpensEmpty l → Padded files padded →
      Padding l (before l files values true) (before l padded values' true)

abbrev LineAlike (l : FileSetLayout) :
    Reading FileSetLines (Option String) → Reading FileSetLines (Option String) → Prop :=
  Reading.Alike fun line r s =>
    Padding l r s ∧ (line.isSome → LineSource.fileValues r = LineSource.fileValues s)

theorem lineAlike_inside (opens : OpensEmpty l) (padding : Padded files padded) (r : ByteLines)
    (after : LineAlike l (LineSource.readLine (before l files values true))
      (LineSource.readLine (before l padded values true))) :
    LineAlike l (LineSource.readLine (inside l files values r))
      (LineSource.readLine (inside l padded values r)) := by
  rw [readLine_inside, readLine_inside]
  rcases r.readLine with ⟨e | (_ | line), r'⟩
  · exact .error
  · exact after
  · exact .ok ⟨.inside opens padding, fun _ => rfl⟩

theorem lineAlike_between (opens : OpensEmpty l) (padding : Padded files padded) :
    LineAlike l (LineSource.readLine (before l files values true))
      (LineSource.readLine (before l padded values' true)) := by
  induction padding generalizing values values' with
  | nil => exact .ok ⟨.between opens .nil, by simp⟩
  | @empty own files padded _ ih =>
    rw [readLine_before_empty opens]
    exact ih
  | @file file files padded padding ih =>
    have next (files : List SetFile) (values : List String) :=
      openNext_before l file files values true
    cases opening : openFile l.cipher file with
    | error e =>
      simp only [opening] at next
      rw [readLine_of_openNext_error (next files values),
        readLine_of_openNext_error (next padded values')]
      exact .error
    | ok r =>
      rcases top : skipTop l r with ⟨e | (_ | line), r'⟩
      · simp only [opening, if_true, top] at next
        rw [readLine_of_openNext_error (next files values),
          readLine_of_openNext_error (next padded values')]
        exact .error
      · rw [readLine_before_later files values opening top,
          readLine_before_later padded values' opening top]
        exact lineAlike_inside opens padding r' ih
      · rw [readLine_before_pending files values opening top,
          readLine_before_pending padded values' opening top]
        exact .ok ⟨.inside opens padding, fun _ => rfl⟩

theorem remaining_before (files : List SetFile) (values : List String) (openedAny : Bool) :
    LineSource.remaining (before l files values openedAny) = totalSize files := rfl

theorem remaining_inside (files : List SetFile) (values : List String) (r : ByteLines) :
    LineSource.remaining (inside l files values r) = totalSize files + r.size := rfl

/-- Empty files that a set has to open after its first one cannot be told from none. -/
theorem correspondence_padding (l : FileSetLayout) : LineSource.Correspondence (Padding l) where
  number related := by cases related <;> rfl
  left related := by
    cases related with
    | unopened padding =>
      rw [remaining_before, remaining_before, totalSize, totalSize, padding.totalSize_eq]
    | inside _ padding => rw [remaining_inside, remaining_inside, padding.totalSize_eq]
    | between _ padding => rw [remaining_before, remaining_before, padding.totalSize_eq]
  line related := by
    cases related with
    | between opens padding => exact lineAlike_between opens padding
    | @inside _ _ _ r opens padding =>
      exact lineAlike_inside opens padding r (lineAlike_between opens padding)
    | @unopened file files padded values padding =>
      have next (files : List SetFile) := openNext_before l file files values false
      cases opening : openFile l.cipher file with
      | error e =>
        simp only [opening] at next
        rw [readLine_of_openNext_error (next files), readLine_of_openNext_error (next padded)]
        exact .error
      | ok r =>
        have opens := opensEmpty_of_openFile opening
        rw [readLine_before_first files values opening, readLine_before_first padded values opening]
        exact lineAlike_inside opens padding r (lineAlike_between opens padding)
  continuation related := by
    obtain ⟨related, sameValues⟩ := related
    cases related with
    | unopened padding => exact ⟨rfl, .unopened padding, rfl⟩
    | inside opens padding => exact ⟨rfl, .inside opens padding, rfl⟩
    | between opens padding => exact ⟨rfl, .between opens padding, sameValues⟩

end PlainTables.FileSetLines
