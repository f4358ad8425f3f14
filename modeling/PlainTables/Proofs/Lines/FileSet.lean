import PlainTables.Lines.FileSet
import PlainTables.Proofs.Lines.Preamble

/-!
# Lines inside a file of a set

While a file of a set is read, the set reads the lines of this file. At its end the set goes on like
one that has not opened its next file yet.
-/

namespace PlainTables.FileSetLines

variable {o : FileSetLayout} {file : SetFile} {files : List SetFile} {values : List String}
  {r r' : ByteLines}

def inside (o : FileSetLayout) (files : List SetFile) (values : List String) (r : ByteLines) :
    FileSetLines where
  layout := o
  files
  current := some r
  fileValues := values
  openedAny := true

def before (o : FileSetLayout) (files : List SetFile) (values : List String) (openedAny : Bool) :
    FileSetLines where
  layout := o
  files
  fileValues := values
  openedAny

theorem openNext_before (o : FileSetLayout) (file : SetFile) (files : List SetFile)
    (values : List String) (openedAny : Bool) :
    openNext (before o (file :: files) values openedAny) =
      match openFile o.cipher file with
      | .error e => (.error e, before o files values openedAny)
      | .ok r =>
        match if openedAny then skipTop o r else (.ok none, r) with
        | (.error e, _) => (.error e, before o files values openedAny)
        | (.ok pending, r) => (.ok true, { inside o files file.values r with pending }) := by
  rfl

/-- One step for every file to come and one more are enough. -/
theorem readFrom_before (fuel fuel' : Nat) (files : List SetFile) (values : List String)
    (openedAny : Bool) (enough : files.length < fuel) (enough' : files.length < fuel') :
    readFrom fuel (before o files values openedAny) =
      readFrom fuel' (before o files values openedAny) := by
  induction fuel generalizing fuel' files values openedAny with
  | zero => omega
  | succ fuel ih =>
    cases fuel' with
    | zero => omega
    | succ fuel' =>
      cases files with
      | nil => rfl
      | cons file files =>
        have closed : (before o (file :: files) values openedAny).current.isSome = false := rfl
        simp only [readFrom, closed, openNext_before, Bool.false_eq_true, if_false]
        cases openFile o.cipher file with
        | error e => rfl
        | ok r =>
          simp only
          generalize (if openedAny then skipTop o r else (.ok none, r)) = top
          rcases top with ⟨e | (_ | line), r⟩
          · rfl
          · simp only [inside]
            rcases r.readLine with ⟨e | (_ | line), r'⟩
            · rfl
            · rw [List.length_cons] at enough enough'
              exact ih fuel' files file.values true (by omega) (by omega)
            · rfl
          · rfl

theorem readFrom_inside (fuel : Nat) (files : List SetFile) (values : List String) (r : ByteLines)
    (enough : files.length < fuel) :
    readFrom (fuel + 1) (inside o files values r) =
      match r.readLine with
      | (.ok none, _) => LineSource.readLine (before o files values true)
      | (result, r') => (result, inside o files values r') := by
  have goesOn := readFrom_before (o := o) fuel (files.length + 2) files values true enough (by omega)
  rw [readFrom]
  rcases reading : r.readLine with ⟨e | (_ | line), r'⟩
  · simp [inside, reading]
  · simp only [inside, Option.isSome_some, if_true, reading]
    exact goesOn
  · simp [inside, reading]

/-- Inside a file its lines are read, and at its end those of the files after it. -/
theorem readLine_inside (o : FileSetLayout) (files : List SetFile) (values : List String)
    (r : ByteLines) :
    LineSource.readLine (inside o files values r) =
      match r.readLine with
      | (.ok none, _) => LineSource.readLine (before o files values true)
      | (result, r') => (result, inside o files values r') :=
  readFrom_inside (files.length + 1) files values r (Nat.lt_succ_self _)

theorem readContinuation_inside (o : FileSetLayout) (files : List SetFile) (values : List String)
    (r : ByteLines) :
    LineSource.readContinuation (inside o files values r) =
      (r.readLine.1, inside o files values r.readLine.2) := rfl

/-- A set that opens a file without reading any of its lines too early reads on inside it. -/
theorem readLine_of_openNext {values : List String} {openedAny : Bool}
    (opened : openNext (before o (file :: files) values openedAny) =
      (.ok true, inside o files file.values r)) :
    LineSource.readLine (before o (file :: files) values openedAny) =
      LineSource.readLine (inside o files file.values r) := by
  have unfolded : LineSource.readLine (before o (file :: files) values openedAny) =
    readFrom (files.length + 3) (before o (file :: files) values openedAny) := rfl
  have closed : (before o (file :: files) values openedAny).current.isSome = false := rfl
  have continued := readFrom_inside (o := o) (files.length + 2) files file.values r (by omega)
  rw [unfolded, readLine_inside, ← continued, readFrom, readFrom]
  simp only [closed, opened, Bool.false_eq_true, if_false]
  rfl

theorem readLine_before_first (files : List SetFile) (values : List String)
    (opening : openFile o.cipher file = .ok r) :
    LineSource.readLine (before o (file :: files) values false) =
      LineSource.readLine (inside o files file.values r) := by
  refine readLine_of_openNext ?_
  simp only [openNext_before, opening]
  rfl

theorem readLine_before_later (files : List SetFile) (values : List String)
    (opening : openFile o.cipher file = .ok r) (top : skipTop o r = (.ok none, r')) :
    LineSource.readLine (before o (file :: files) values true) =
      LineSource.readLine (inside o files file.values r') := by
  refine readLine_of_openNext ?_
  simp only [openNext_before, opening, if_true, top]
  rfl

/-- The line that was read to find the end of the preamble comes before what is below it. -/
theorem readLine_before_pending (files : List SetFile) (values : List String)
    (opening : openFile o.cipher file = .ok r) {line : String}
    (top : skipTop o r = (.ok (some line), r')) :
    LineSource.readLine (before o (file :: files) values true) =
      (.ok (some line), inside o files file.values r') := by
  have unfolded : LineSource.readLine (before o (file :: files) values true) =
    readFrom (files.length + 3) (before o (file :: files) values true) := rfl
  have closed : (before o (file :: files) values true).current.isSome = false := rfl
  rw [unfolded, readFrom]
  simp only [closed, openNext_before, opening, top, Bool.false_eq_true, if_false, if_true]
  rfl

/-- A source that reads on inside a file does so after lines are skipped, as long as the file has
them. -/
theorem skip_inside {s : FileSetLines} (n : Nat) {bytes : List UInt8} {k : Nat}
    (same : LineSource.readLine s =
      LineSource.readLine (inside o files values (ByteLines.atBytes bytes k)))
    (enough : n ≤ (ByteLines.linesOf bytes).length) :
    ∃ rest k' s',
      LineSource.skip n (ByteLines.atBytes bytes k) = (.ok (), ByteLines.atBytes rest k') ∧
      ByteLines.linesOf rest = (ByteLines.linesOf bytes).drop n ∧
      LineSource.skip n s = (.ok (), s') ∧
      LineSource.readLine s' =
        LineSource.readLine (inside o files values (ByteLines.atBytes rest k')) := by
  induction n generalizing s bytes k with
  | zero => exact ⟨bytes, k, s, rfl, rfl, rfl, same⟩
  | succ n ih =>
    obtain ⟨next, k', reading, left⟩ := ByteLines.readLine_eq_head? bytes k
    cases lines : ByteLines.linesOf bytes with
    | nil => rw [lines] at enough; cases enough
    | cons line more =>
      rw [lines] at reading left enough
      have readingSet : LineSource.readLine s =
          (.ok (some line), inside o files values (ByteLines.atBytes next k')) := by
        have unfolded : (ByteLines.atBytes bytes k).readLine = _ := reading
        rw [same, readLine_inside, unfolded]
        rfl
      have enough' : n ≤ (ByteLines.linesOf next).length := by
        rw [left]
        exact Nat.le_of_succ_le_succ enough
      obtain ⟨rest, k'', s', skipped, below, skippedSet, same'⟩ :=
        ih (s := inside o files values (ByteLines.atBytes next k')) rfl enough'
      refine ⟨rest, k'', s', ?_, ?_, ?_, same'⟩
      · rw [LineSource.skip, reading]
        exact skipped
      · rw [below, left]
        rfl
      · rw [LineSource.skip, readingSet]
        exact skippedSet

end PlainTables.FileSetLines
