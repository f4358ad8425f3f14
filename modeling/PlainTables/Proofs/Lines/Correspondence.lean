import PlainTables.Lines.Preamble
import PlainTables.Splitting

/-!
# Corresponding line sources

Two states of a source of lines correspond if they give the same lines and go on corresponding. They
may be told apart by what they hold, but not by reading them.
-/

namespace PlainTables

variable {ρ α : Type}

/-- Two readings give the same: the same error, or the same result with the sources after it
related. -/
inductive Reading.Alike (R : α → ρ → ρ → Prop) : Reading ρ α → Reading ρ α → Prop
  | ok {a r s} : R a r s → Alike R (.ok a, r) (.ok a, s)
  | error {e r s} : Alike R (.error e, r) (.error e, s)

theorem Reading.Alike.result_eq {R : α → ρ → ρ → Prop} {x y : Reading ρ α} (alike : Alike R x y) :
    x.1 = y.1 := by
  cases alike <;> rfl

theorem Reading.Alike.after {R : α → ρ → ρ → Prop} {x y : Reading ρ α} (alike : Alike R x y) {a : α}
    (result : x.1 = .ok a) : R a x.2 y.2 := by
  cases alike with
  | ok after =>
    cases result
    exact after
  | error => cases result

namespace LineSource

variable [LineSource ρ]

def InSameFile (R : ρ → ρ → Prop) (r s : ρ) : Prop :=
  R r s ∧ fileValues r = fileValues s

/-- A relation of sources that reading does not tell apart. Where a line has been read, both are in the
same file. -/
structure Correspondence (R : ρ → ρ → Prop) : Prop where
  number {r s} : R r s → lineNumber r = lineNumber s
  left {r s} : R r s → remaining r = remaining s
  line {r s} : R r s →
    Reading.Alike (fun line r s => R r s ∧ (line.isSome → fileValues r = fileValues s))
      (readLine r) (readLine s)
  continuation {r s} : InSameFile R r s → (readContinuation r).1 = (readContinuation s).1 ∧
    InSameFile R (readContinuation r).2 (readContinuation s).2

namespace Correspondence

variable {R : ρ → ρ → Prop} {r s : ρ}

theorem skip (same : Correspondence R) (n : Nat) (related : R r s) :
    Reading.Alike (fun _ => R) (LineSource.skip n r) (LineSource.skip n s) := by
  induction n generalizing r s with
  | zero => exact .ok related
  | succ n ih =>
    have reading := same.line related
    rw [LineSource.skip, LineSource.skip]
    generalize readLine r = first at reading
    generalize readLine s = second at reading
    cases reading with
    | error => exact .error
    | @ok line _ _ after =>
      cases line with
      | none => exact .ok after.1
      | some line => exact ih after.1

theorem continueRecord (same : Correspondence R) (d : Delimiters) (line : String) (number : Nat)
    (trim : Bool) (fuel position : Nat) (p : Delimiters.Progress) (related : InSameFile R r s) :
    (d.continueRecord line number trim fuel position p r).1 =
        (d.continueRecord line number trim fuel position p s).1 ∧
      InSameFile R (d.continueRecord line number trim fuel position p r).2
        (d.continueRecord line number trim fuel position p s).2 := by
  induction fuel generalizing position p r s with
  | zero => exact ⟨rfl, related⟩
  | succ fuel ih =>
    obtain ⟨result, after⟩ := same.continuation related
    rw [Delimiters.continueRecord, Delimiters.continueRecord]
    generalize readContinuation r = first at result after
    generalize readContinuation s = second at result after
    obtain ⟨found, r'⟩ := first
    obtain ⟨found', s'⟩ := second
    obtain rfl : found = found' := result
    rcases found with e | (_ | next)
    · exact ⟨rfl, after⟩
    · exact ⟨rfl, after⟩
    · simp only
      split
      · exact ⟨rfl, after⟩
      · split
        · exact ih _ _ after
        · exact ⟨rfl, after⟩

/-- The fields of a record are the same, and so is the error if it has none. Either way the sources
correspond after it. -/
theorem split (same : Correspondence R) (splitting : Splitting) (line : String) (trim : Bool)
    (related : InSameFile R r s) :
    (splitting.split line r trim).1 = (splitting.split line s trim).1 ∧
      InSameFile R (splitting.split line r trim).2 (splitting.split line s trim).2 := by
  cases splitting with
  | fixedWidth w => exact ⟨rfl, related⟩
  | delimited d =>
    simp only [Splitting.split, Delimiters.tokenizeRecord, same.number related.1,
      same.left related.1]
    split
    · exact ⟨rfl, related⟩
    · split
      · exact same.continueRecord d line _ trim _ _ _ related
      · exact ⟨rfl, related⟩

end Correspondence

end LineSource

end PlainTables
