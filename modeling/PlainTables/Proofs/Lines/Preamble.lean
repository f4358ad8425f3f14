import PlainTables.Lines.Bytes
import PlainTables.Lines.Preamble

/-!
# The lines of a text

What can still be read of a text are its lines. Reading takes the first of them, and at the end there are
none. Skipping lines and looking for the end of a preamble leave the lines that come after them.
-/

namespace PlainTables

theorem LineSource.skip_of_end {ρ : Type} [LineSource ρ] {r : ρ}
    (atEnd : LineSource.readLine r = (.ok none, r)) (n : Nat) :
    LineSource.skip n r = (.ok (), r) := by
  cases n with
  | zero => rfl
  | succ n => rw [LineSource.skip, atEnd]

namespace ByteLines

theorem readLine_of_end {r r' : ByteLines}
    (atEnd : LineSource.readLine r = (.ok none, r')) : LineSource.readLine r' = (.ok none, r') := by
  obtain ⟨stream, k⟩ := r
  rcases stream with _ | _ | (_ | ⟨b, bytes⟩)
  · cases atEnd
  · cases atEnd
  · cases atEnd
    rfl
  · cases atEnd

theorem skip_add {r s : ByteLines} {m : Nat}
    (skipped : LineSource.skip m r = (.ok (), s)) (n : Nat) :
    LineSource.skip (m + n) r = LineSource.skip n s := by
  induction m generalizing r with
  | zero =>
    cases skipped
    rw [Nat.zero_add]
  | succ m ih =>
    rw [Nat.succ_add]
    rw [LineSource.skip] at skipped ⊢
    rcases reading : LineSource.readLine r with ⟨e | (_ | line), r'⟩
    · rw [reading] at skipped
      cases skipped
    · rw [reading] at skipped
      cases skipped
      exact (LineSource.skip_of_end (readLine_of_end reading) n).symm
    · rw [reading] at skipped
      exact ih skipped

def linesOf : List UInt8 → List String
  | [] => []
  | b :: bytes => lineOf (b :: bytes) :: linesOf (splitLine (b :: bytes)).2
termination_by bytes => bytes.length
decreasing_by exact length_splitLine b bytes

abbrev atBytes (bytes : List UInt8) (lineNumber : Nat) : ByteLines := ⟨.bytes bytes, lineNumber⟩

theorem readLine_eq_head? (bytes : List UInt8) (k : Nat) :
    ∃ bytes' k', LineSource.readLine (atBytes bytes k) =
        (.ok (linesOf bytes).head?, atBytes bytes' k') ∧ linesOf bytes' = (linesOf bytes).tail := by
  cases bytes with
  | nil => exact ⟨[], k, by rw [linesOf]; rfl, by rw [linesOf]; rfl⟩
  | cons b bytes => exact ⟨_, k + 1, by rw [linesOf]; rfl, by rw [linesOf]; rfl⟩

theorem eq_nil_of_linesOf {bytes : List UInt8} (noLines : linesOf bytes = []) : bytes = [] := by
  cases bytes with
  | nil => rfl
  | cons b bytes => rw [linesOf] at noLines; cases noLines

theorem skip_eq_drop (n : Nat) (bytes : List UInt8) (k : Nat) :
    ∃ bytes' k', LineSource.skip n (atBytes bytes k) = (.ok (), atBytes bytes' k') ∧
      linesOf bytes' = (linesOf bytes).drop n := by
  induction n generalizing bytes k with
  | zero => exact ⟨bytes, k, rfl, rfl⟩
  | succ n ih =>
    obtain ⟨next, k', reading, rest⟩ := readLine_eq_head? bytes k
    cases lines : linesOf bytes with
    | nil =>
      obtain rfl := eq_nil_of_linesOf lines
      exact ⟨[], k, LineSource.skip_of_end rfl _, by rw [lines, List.drop_nil]⟩
    | cons line more =>
      obtain ⟨bytes', k'', skipping, left⟩ := ih next k'
      refine ⟨bytes', k'', ?_, ?_⟩
      · rw [LineSource.skip, reading, lines]
        exact skipping
      · rw [left, rest, lines]
        rfl

theorem readAfterPreamble_eq_dropWhile (c : Option Char) (fuel : Nat) (bytes : List UInt8) (k : Nat)
    (enough : bytes.length < fuel) :
    ∃ bytes' k', LineSource.readAfterPreamble c fuel (atBytes bytes k) =
        (.ok ((linesOf bytes).dropWhile (LineSource.isPreamble c)).head?, atBytes bytes' k') ∧
      linesOf bytes' = ((linesOf bytes).dropWhile (LineSource.isPreamble c)).tail := by
  induction fuel generalizing bytes k with
  | zero => omega
  | succ fuel ih =>
    cases bytes with
    | nil => exact ⟨[], k, by rw [linesOf]; rfl, by rw [linesOf]; rfl⟩
    | cons b bytes =>
      have shorter := length_splitLine b bytes
      have reading : LineSource.readLine (atBytes (b :: bytes) k) =
        (.ok (some (lineOf (b :: bytes))), atBytes (splitLine (b :: bytes)).2 (k + 1)) := rfl
      rw [LineSource.readAfterPreamble, reading, linesOf]
      by_cases preamble : LineSource.isPreamble c (lineOf (b :: bytes))
      · simp only [preamble, if_true]
        rw [List.dropWhile_cons_of_pos preamble]
        exact ih _ _ (by omega)
      · simp only [preamble]
        rw [List.dropWhile_cons_of_neg preamble]
        exact ⟨_, k + 1, rfl, rfl⟩

def Shows (r : ByteLines) (lines : List String) : Prop :=
  ∃ bytes, r.stream = .bytes bytes ∧ linesOf bytes = lines

/-- The lines that are left of a text; none if it cannot be read. -/
def left (r : ByteLines) : List String :=
  match r.stream with
  | .bytes bytes => linesOf bytes
  | _ => []

variable {r : ByteLines} {lines lines' : List String}

theorem Shows.left_eq (shows : r.Shows lines) : r.left = lines := by
  obtain ⟨bytes, stream, rfl⟩ := shows
  rw [left, stream]

theorem shows_ofBytes (bytes : List UInt8) : (ofBytes bytes).Shows (linesOf bytes) :=
  ⟨bytes, rfl, rfl⟩

theorem Shows.unique (shows : r.Shows lines) (shows' : r.Shows lines') : lines = lines' := by
  rw [← shows.left_eq, shows'.left_eq]

theorem Shows.exists_atBytes (shows : r.Shows lines) :
    ∃ bytes k, r = atBytes bytes k ∧ linesOf bytes = lines := by
  obtain ⟨stream, k⟩ := r
  obtain ⟨bytes, rfl, left⟩ := shows
  exact ⟨bytes, k, rfl, left⟩

theorem Shows.readLine_nil (shows : r.Shows []) : LineSource.readLine r = (.ok none, r) := by
  obtain ⟨bytes, k, rfl, noLines⟩ := shows.exists_atBytes
  obtain rfl := eq_nil_of_linesOf noLines
  rfl

theorem Shows.readLine_cons {line : String} (shows : r.Shows (line :: lines)) :
    ∃ r', LineSource.readLine r = (.ok (some line), r') ∧ r'.Shows lines ∧
      LineSource.remaining r' < LineSource.remaining r := by
  obtain ⟨bytes, k, rfl, left⟩ := shows.exists_atBytes
  obtain ⟨rest, k', reading, below⟩ := readLine_eq_head? bytes k
  rw [left] at reading below
  have fewer := LineSource.remaining_readLine (atBytes bytes k) line (congrArg Prod.fst reading)
  rw [reading] at fewer
  exact ⟨_, reading, ⟨rest, rfl, below⟩, fewer⟩

/-- A text has no lines but its own to go on with. -/
theorem readContinuation_eq (r : ByteLines) :
    LineSource.readContinuation r = LineSource.readLine r :=
  rfl

theorem Shows.skip (shows : r.Shows lines) (n : Nat) :
    ∃ r', LineSource.skip n r = (.ok (), r') ∧ r'.Shows (lines.drop n) := by
  obtain ⟨bytes, k, rfl, rfl⟩ := shows.exists_atBytes
  obtain ⟨rest, k', skipped, left⟩ := skip_eq_drop n bytes k
  exact ⟨_, skipped, rest, rfl, left⟩

end ByteLines

end PlainTables
