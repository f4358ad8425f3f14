import PlainTables.Proofs.Lines.FileSet
import PlainTables.Proofs.Lines.Preamble
import PlainTables.Proofs.Records.TextRun

/-!
# The run of a file inside a set

A record does not go on beyond the end of its file. In a set its fields are those that it has in the file
alone, and so is the error if it has none.

The records of a file are read in a set as they are read alone. Where the file alone has no more of
them, the set goes on with the next file; an error ends both.
-/

namespace PlainTables

open FileSetLines

section

variable {o : FileSetLayout} {files : List SetFile} {values : List String}

/-- A record that goes on over several lines is the same inside a set. Both sides have fuel for all
the lines that are left. -/
theorem Delimiters.continueRecord_inside (d : Delimiters) (line : String) (number : Nat)
    (trim : Bool) (fuel fuel' position : Nat) (p : Progress) (r : ByteLines)
    (enough : r.size < fuel) (enough' : r.size < fuel') :
    d.continueRecord line number trim fuel' position p (inside o files values r) =
      ((d.continueRecord line number trim fuel position p r).1,
        inside o files values (d.continueRecord line number trim fuel position p r).2) := by
  induction fuel generalizing fuel' position p r with
  | zero => omega
  | succ fuel ih =>
    cases fuel' with
    | zero => omega
    | succ fuel' =>
      have reading : LineSource.readContinuation r = r.readLine := rfl
      have fewer := (ByteLines.size_readLine r).1
      rw [continueRecord, continueRecord, readContinuation_inside, reading]
      generalize r.readLine = result at fewer
      rcases result with ⟨e | (_ | next), r'⟩
      · rfl
      · rfl
      · have smaller : r'.size < r.size := fewer next rfl
        simp only
        split
        · rfl
        · split
          · exact ih _ _ _ r' (by omega) (by omega)
          · rfl

theorem Delimiters.tokenizeRecord_inside (d : Delimiters) (line : String) (r : ByteLines)
    (trim : Bool) :
    d.tokenizeRecord line (inside o files values r) trim =
      ((d.tokenizeRecord line r trim).1,
        inside o files values (d.tokenizeRecord line r trim).2) := by
  have number : LineSource.lineNumber (inside o files values r) = LineSource.lineNumber r := rfl
  have lines : r.size ≤ LineSource.remaining (inside o files values r) := by
    change r.size ≤ FileSetLines.totalSize files + r.size + 0
    omega
  unfold tokenizeRecord
  rw [number]
  simp only
  split
  · rfl
  · split
    · refine continueRecord_inside d line _ trim _ _ _ _ r (Nat.lt_succ_self _) ?_
      omega
    · rfl

theorem Splitting.split_inside (s : Splitting) (line : String) (r : ByteLines) (trim : Bool) :
    s.split line (inside o files values r) trim =
      ((s.split line r trim).1, inside o files values (s.split line r trim).2) := by
  cases s with
  | delimited d => exact d.tokenizeRecord_inside line r trim
  | fixedWidth w => rfl

theorem Splitting.split_of_oneLine {s : Splitting} {line : String} {trim : Bool}
    {fields : List String} (oneLine : (s.split line (ByteLines.ofBytes []) trim).1 = .ok fields)
    {ρ : Type} [LineSource ρ] (r : ρ) : s.split line r trim = (.ok fields, r) := by
  cases s with
  | fixedWidth w =>
    cases oneLine
    rfl
  | delimited d =>
    simp only [split, Delimiters.tokenizeRecord] at oneLine ⊢
    cases scanned : d.scan 0 {} (d.chunk line.toList) with
    | error m => rw [scanned] at oneLine; cases oneLine
    | ok p =>
      rw [scanned] at oneLine
      cases quoted : p.quoted with
      | true =>
        simp only [quoted, if_true] at oneLine
        cases oneLine
      | false =>
        simp only [quoted, Bool.false_eq_true, if_false] at oneLine ⊢
        rw [Except.ok.inj oneLine]

theorem Splitting.exists_of_oneLine {s : Splitting} {line : String} {trim : Bool}
    (oneLine : (s.split line (ByteLines.ofBytes []) trim).1.isOk) :
    ∃ fields, (s.split line (ByteLines.ofBytes []) trim).1 = .ok fields := by
  cases result : (s.split line (ByteLines.ofBytes []) trim).1 with
  | error e => rw [result] at oneLine; cases oneLine
  | ok fields => exact ⟨fields, rfl⟩

end

namespace TextLayout

variable {o : TextLayout} {l : FileSetLayout} {files : List SetFile} {values : List String}

theorem recordFrom_inside (o : TextLayout) (line : String) (trim : Bool) (r : ByteLines) :
    o.recordFrom line trim (inside l files values r) =
      ((o.recordFrom line trim r).1, (o.recordFrom line trim r).2.1,
        inside l files values (o.recordFrom line trim r).2.2) := by
  rw [recordFrom, recordFrom, o.splitting.split_inside]
  rcases o.splitting.split line r trim with ⟨e | fields, r'⟩
  · rfl
  · rfl

/-- The outcome of reading one record of a file, carried over to a set: at the end of the file the
record is looked for in the files after it. -/
def carriedOver (o : TextLayout) (l : FileSetLayout) (files : List SetFile) (values : List String)
    (trim preamble : Bool) : Except QueryError (Option (List String)) × Bool × ByteLines →
    Except QueryError (Option (List String)) × Bool × FileSetLines
  | (.ok none, _, _) => o.readRecord none trim preamble (before l files values true)
  | (result, after, r) => (result, after, inside l files values r)

theorem carriedOver_recordFrom (o : TextLayout) (line : String) (trim preamble : Bool)
    (r : ByteLines) :
    o.carriedOver l files values trim preamble (o.recordFrom line trim r) =
      o.recordFrom line trim (inside l files values r) := by
  rw [recordFrom_inside]
  obtain ⟨_, _, record⟩ | ⟨_, _, record⟩ := o.recordFrom_cases line trim r
  · rw [record]
    rfl
  · rw [record]
    rfl

/-- Inside a set the next record is that of the file, as long as there is one. After that it is looked
for in the files to come, where comments are possible if they still are. -/
theorem readRecord_inside (o : TextLayout) (width : Option Nat) (trim preamble : Bool)
    (r : ByteLines) :
    o.readRecord width trim preamble (inside l files values r) =
      match o.readRecord width trim preamble r with
      | (.ok none, after, _) => o.readRecord width trim after (before l files values true)
      | (result, after, r) => (result, after, inside l files values r) := by
  induction remaining : LineSource.remaining r using Nat.strongRecOn generalizing preamble r with
  | _ n ih =>
    have fewer := LineSource.remaining_readLine r
    have reading : r.readLine = LineSource.readLine r := rfl
    rw [readRecord_step, readRecord_step (r := r), readLine_inside, reading]
    rcases next : LineSource.readLine r with ⟨e | (_ | line), r'⟩
    · rfl
    · simp only
      rw [← readRecord_step]
    · rw [next] at fewer
      have smaller : LineSource.remaining r' < LineSource.remaining r := fewer line rfl
      have left := o.splitting.remaining_split line r' trim
      simp only [o.splitting.split_inside]
      split
      · exact ih _ (by omega) true r' rfl
      · generalize o.splitting.split line r' trim = parts at left
        rcases parts with ⟨e | fields, r''⟩
        · simp only at left ⊢
          split
          · exact ih _ (by omega) false r'' rfl
          · rfl
        · simp only at left ⊢
          split
          · rfl
          · exact ih _ (by omega) false r'' rfl

/-- If no line is ignored, comments are as possible at the end of the file as they were before. -/
theorem readRecord_inside_strict (strict : o.ignoreUnparseableLines = false) (trim preamble : Bool)
    (r : ByteLines) :
    o.readRecord none trim preamble (inside l files values r) =
      o.carriedOver l files values trim preamble (o.readRecord none trim preamble r) := by
  rw [readRecord_inside]
  match reading : o.readRecord none trim preamble r with
  | (.error e, after, r') => rfl
  | (.ok (some fields), after, r') => rfl
  | (.ok none, after, r') =>
    obtain ⟨rfl, _⟩ := readLine_of_ended strict reading
    rfl

def placed (l : FileSetLayout) (files : List SetFile) (values : List String)
    (own : Outcome (List String × ByteLines)) : Outcome (List String × FileSetLines) :=
  own.map fun record => (record.1, inside l files values record.2)

/-- After a header there are no comments, so that there are none between files with headers. -/
def AllowsPreamble (o : TextLayout) (preamble : Bool) : Prop :=
  o.suppressHeaders = false → preamble = false

theorem Run.carriedOver (strict : o.ignoreUnparseableLines = false) {preamble inSet : Bool}
    {r : ByteLines} {s : FileSetLines} {own : Outcome (List String × ByteLines)}
    {next : Outcome (List String × FileSetLines)} (run : Run o preamble r own)
    (same : o.readRecord none false inSet s =
      o.carriedOver l files values false inSet (o.readRecord none false preamble r))
    (allowed : o.AllowsPreamble inSet)
    (rest : ∀ possible, o.AllowsPreamble possible →
      Run o possible (before l files values true) next) :
    Run o inSet s ((placed l files values own).followedBy next) := by
  induction run generalizing inSet s with
  | ended reading =>
    rw [reading] at same
    exact (rest inSet allowed).congr same
  | failed reading =>
    rw [reading] at same
    exact .failed same
  | @record preamble r r' fields records stop reading _ ih =>
    rw [reading] at same
    have others := ih (readRecord_inside_strict strict false false r') fun _ => rfl
    cases stop with
    | some e => exact .record same others
    | none => exact .record same others

theorem Run.inSet (strict : o.ignoreUnparseableLines = false) {preamble : Bool} {r : ByteLines}
    {s : FileSetLines} {own : Outcome (List String × ByteLines)}
    {next : Outcome (List String × FileSetLines)} (run : Run o preamble r own)
    (allowed : o.AllowsPreamble preamble)
    (same : LineSource.readLine s = LineSource.readLine (inside l files values r))
    (rest : ∀ possible, o.AllowsPreamble possible →
      Run o possible (before l files values true) next) :
    Run o preamble s ((placed l files values own).followedBy next) :=
  run.carriedOver strict ((readRecord_congr o none false preamble same).trans
    (readRecord_inside_strict strict false preamble r)) allowed rest

theorem Run.of_end {preamble possible : Bool} {k : Nat} {own : Outcome (List String × ByteLines)}
    (run : Run o preamble (ByteLines.atBytes [] k) own) :
    Run o possible (ByteLines.atBytes [] k) own := by
  cases run with
  | ended => exact .ended rfl rfl
  | failed reading => cases reading
  | record reading => cases reading

end TextLayout

end PlainTables
