import PlainTables.Proofs.Lines.Preamble
import PlainTables.Splitting

/-!
# Records in lines that two texts have in common

The fields of a record depend on its own lines alone: texts that begin with the same lines have the same
record there, whatever stands above and below. Only the line numbers in errors differ.
-/

namespace PlainTables

namespace QueryError

def unnumbered : QueryError → QueryError
  | malformedQuote _ position fault => malformedQuote 0 position fault
  | e => e

theorem isQuoteError_unnumbered (e : QueryError) : e.unnumbered.isQuoteError = e.isQuoteError := by
  cases e <;> rfl

/-- The same result, or the same error in another line. -/
inductive Alike {α : Type} : Except QueryError α → Except QueryError α → Prop
  | ok (a : α) : Alike (.ok a) (.ok a)
  | error {e e' : QueryError} : e.unnumbered = e'.unnumbered → Alike (.error e) (.error e')

end QueryError

open ByteLines QueryError

variable {α : Type} {r s : ByteLines} {front data more lines : List String}

def Leaves (lines : List String) (x : Reading ByteLines α) : Prop :=
  ∃ rest, x.2.Shows rest ∧ rest <:+ lines

theorem Leaves.cons {x : Reading ByteLines α} (leaves : Leaves lines x) (line : String) :
    Leaves (line :: lines) x := by
  obtain ⟨rest, left, suffix⟩ := leaves
  exact ⟨rest, left, suffix.trans (List.suffix_cons line lines)⟩

/-- Reading leaves all of the lines `data`, and is not stopped by the end of the text, unless both texts
end with the lines that they have in common. -/
def EndsAbove (data more : List String) (x : Reading ByteLines α) : Prop :=
  data = [] ∧ more = [] ∨
    (∀ line, x.1 ≠ .error (.unterminatedQuote line)) ∧ ∃ rest, x.2.Shows (rest ++ data)

/-- Reading gives the same in both texts and leaves the same of the lines that they have in common. -/
def AlikeAbove (data more : List String) (x y : Reading ByteLines α) : Prop :=
  Alike x.1 y.1 ∧ ∃ rest, x.2.Shows (rest ++ data) ∧ y.2.Shows (rest ++ more)

namespace Delimiters

variable {position : Nat} {p : Progress}

theorem leaves_continueRecord (d : Delimiters) (line : String) (number : Nat) (trim : Bool)
    (fuel : Nat) (shows : r.Shows lines) :
    Leaves lines (d.continueRecord line number trim fuel position p r) := by
  induction fuel generalizing position p r lines with
  | zero => exact ⟨lines, shows, List.suffix_refl _⟩
  | succ fuel ih =>
    rw [continueRecord, readContinuation_eq]
    cases lines with
    | nil => exact ⟨[], by rw [shows.readLine_nil]; exact shows, List.suffix_refl _⟩
    | cons next lines =>
      obtain ⟨r', read, below, _⟩ := shows.readLine_cons
      rw [read]
      simp only
      split
      · exact ⟨lines, below, List.suffix_cons _ _⟩
      · split
        · exact (ih below).cons next
        · exact ⟨lines, below, List.suffix_cons _ _⟩

/-- A quote that is not closed takes up all lines that are left. -/
theorem shows_nil_of_unterminated {d : Delimiters} {line other : String} {number fuel : Nat}
    {trim : Bool} (shows : r.Shows lines) (enough : LineSource.remaining r < fuel)
    (stopped : (d.continueRecord line number trim fuel position p r).1 =
      .error (.unterminatedQuote other)) :
    (d.continueRecord line number trim fuel position p r).2.Shows [] := by
  induction fuel generalizing position p r lines with
  | zero => omega
  | succ fuel ih =>
    rw [continueRecord, readContinuation_eq] at stopped ⊢
    cases lines with
    | nil =>
      rw [shows.readLine_nil]
      exact shows
    | cons next lines =>
      obtain ⟨r', read, below, fewer⟩ := shows.readLine_cons
      rw [read] at stopped ⊢
      simp only at stopped ⊢
      split at stopped
      · cases stopped
      · split at stopped
        · rename_i quoted
          rw [if_pos quoted]
          exact ih below (by omega) stopped
        · cases stopped

/-- Where the lines in common end, a record that goes on takes up a line below them. -/
theorem not_endsAbove_nil {d : Delimiters} {line next : String} {number fuel : Nat} {trim : Bool}
    (shows : r.Shows (next :: data)) :
    ¬ EndsAbove (next :: data) more
      (d.continueRecord line number trim (fuel + 1) position p r) := by
  rintro (⟨absurd, _⟩ | ⟨-, rest, left⟩)
  · cases absurd
  · obtain ⟨r', read, below, _⟩ := shows.readLine_cons
    have leaves : Leaves data (d.continueRecord line number trim (fuel + 1) position p r) := by
      rw [continueRecord, readContinuation_eq, read]
      simp only
      split
      · exact ⟨data, below, List.suffix_refl _⟩
      · split
        · exact d.leaves_continueRecord line number trim fuel below
        · exact ⟨data, below, List.suffix_refl _⟩
    obtain ⟨left', shows', suffix⟩ := leaves
    obtain rfl := left.unique shows'
    have length := suffix.length_le
    simp at length
    omega

theorem continueRecord_above (d : Delimiters) (line : String) (number number' : Nat) (trim : Bool)
    {fuel fuel' : Nat} (shows : r.Shows (front ++ data)) (shows' : s.Shows (front ++ more))
    (enough : LineSource.remaining r < fuel) (enough' : LineSource.remaining s < fuel')
    (ends : EndsAbove data more (d.continueRecord line number trim fuel position p r)) :
    AlikeAbove data more (d.continueRecord line number trim fuel position p r)
      (d.continueRecord line number' trim fuel' position p s) := by
  -- Both texts scan the lines in common alike; only below the last of them could they differ.
  induction front generalizing fuel fuel' position p r s with
  | nil =>
    obtain ⟨fuel, rfl⟩ := Nat.exists_eq_add_one_of_ne_zero (Nat.ne_zero_of_lt enough)
    obtain ⟨fuel', rfl⟩ := Nat.exists_eq_add_one_of_ne_zero (Nat.ne_zero_of_lt enough')
    cases data with
    | cons next data => exact absurd ends (not_endsAbove_nil shows)
    | nil =>
      rw [continueRecord, readContinuation_eq, shows.readLine_nil] at ends ⊢
      rcases ends with ⟨-, rfl⟩ | ⟨closed, -⟩
      · rw [continueRecord, readContinuation_eq, shows'.readLine_nil]
        exact ⟨.error rfl, [], shows, shows'⟩
      · exact absurd rfl (closed line)
  | cons next front ih =>
    obtain ⟨fuel, rfl⟩ := Nat.exists_eq_add_one_of_ne_zero (Nat.ne_zero_of_lt enough)
    obtain ⟨fuel', rfl⟩ := Nat.exists_eq_add_one_of_ne_zero (Nat.ne_zero_of_lt enough')
    obtain ⟨r', read, below, fewer⟩ := shows.readLine_cons
    obtain ⟨s', read', below', fewer'⟩ := shows'.readLine_cons
    rw [continueRecord, readContinuation_eq, read] at ends ⊢
    rw [continueRecord, readContinuation_eq, read']
    simp only at ends ⊢
    split
    · exact ⟨.error rfl, front, below, below'⟩
    · rename_i scanned
      simp only [scanned] at ends
      split
      · rename_i quoted
        rw [if_pos quoted] at ends
        exact ih below below' (by omega) (by omega) ends
      · exact ⟨.ok _, front, below, below'⟩

end Delimiters

namespace Splitting

theorem leaves_split (splitting : Splitting) (line : String) (trim : Bool) (shows : r.Shows lines) :
    Leaves lines (splitting.split line r trim) := by
  cases splitting with
  | fixedWidth w => exact ⟨lines, shows, List.suffix_refl _⟩
  | delimited d =>
    simp only [split, Delimiters.tokenizeRecord]
    split
    · exact ⟨lines, shows, List.suffix_refl _⟩
    · split
      · exact d.leaves_continueRecord line _ trim _ shows
      · exact ⟨lines, shows, List.suffix_refl _⟩

theorem shows_nil_of_unterminated {splitting : Splitting} {line other : String} {trim : Bool}
    (shows : r.Shows lines)
    (stopped : (splitting.split line r trim).1 = .error (.unterminatedQuote other)) :
    (splitting.split line r trim).2.Shows [] := by
  cases splitting with
  | fixedWidth w => cases stopped
  | delimited d =>
    simp only [split, Delimiters.tokenizeRecord] at stopped ⊢
    split at stopped
    · cases stopped
    · split at stopped
      · rename_i quoted
        rw [if_pos quoted]
        exact Delimiters.shows_nil_of_unterminated shows (Nat.lt_succ_self _) stopped
      · cases stopped

/-- A record that ends above the lines that differ has the same fields in both texts, or the same
fault. -/
theorem split_above (splitting : Splitting) (line : String) (trim : Bool)
    (shows : r.Shows (front ++ data)) (shows' : s.Shows (front ++ more))
    (ends : EndsAbove data more (splitting.split line r trim)) :
    AlikeAbove data more (splitting.split line r trim) (splitting.split line s trim) := by
  cases splitting with
  | fixedWidth w => exact ⟨.ok _, front, shows, shows'⟩
  | delimited d =>
    simp only [split, Delimiters.tokenizeRecord] at ends ⊢
    cases scanned : d.scan 0 {} (d.chunk line.toList) with
    | error m => exact ⟨.error rfl, front, shows, shows'⟩
    | ok p =>
      simp only [scanned] at ends ⊢
      split
      · rename_i quoted
        rw [if_pos quoted] at ends
        exact d.continueRecord_above line _ _ trim shows shows' (Nat.lt_succ_self _)
          (Nat.lt_succ_self _) ends
      · exact ⟨.ok _, front, shows, shows'⟩

end Splitting

end PlainTables
