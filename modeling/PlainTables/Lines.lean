import PlainTables.QueryError

/-!
# Line sources

A line source hands out the physical lines of one or more texts, without their terminators. Reading a
line uses it up, which is what ends every loop over lines.
-/

namespace PlainTables

/-- What reading something of type `α` from a source `ρ` gives, with the source after it. The source
goes on existing when reading fails. -/
abbrev Reading (ρ α : Type) := Except QueryError α × ρ

/-- A source of physical lines. -/
class LineSource (ρ : Type) where
  /-- The next line; none at the end. -/
  readLine : ρ → Reading ρ (Option String)
  /-- The next line of the file that the last line came from; none at its end. -/
  readContinuation : ρ → Reading ρ (Option String)
  /-- How many lines of the current file have been read. -/
  lineNumber : ρ → Nat
  /-- What the name of the current file adds to each of its records. -/
  fileValues : ρ → List String
  /-- Releases the texts. -/
  close : ρ → ρ
  /-- A bound on the number of lines that are left. -/
  remaining : ρ → Nat
  remaining_readLine : ∀ r line,
    (readLine r).1 = .ok (some line) → remaining (readLine r).2 < remaining r
  remaining_readLine_le : ∀ r, remaining (readLine r).2 ≤ remaining r
  remaining_readContinuation : ∀ r line,
    (readContinuation r).1 = .ok (some line) → remaining (readContinuation r).2 < remaining r
  remaining_readContinuation_le : ∀ r, remaining (readContinuation r).2 ≤ remaining r

end PlainTables
