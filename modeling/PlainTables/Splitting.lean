import PlainTables.Splitting.Delimited
import PlainTables.Splitting.FixedWidth

/-!
# Splitting of records into fields

Records are lines with separators, which may go on over several lines, or lines with fields at fixed
places.
-/

namespace PlainTables

inductive Splitting where
  | delimited (d : Delimiters)
  | fixedWidth (w : FixedWidths)
deriving DecidableEq

namespace Splitting

variable {ρ : Type} [LineSource ρ]

/-- The fields of the record that starts with a line that has just been read. -/
def split (s : Splitting) (line : String) (r : ρ) (trim : Bool) : Reading ρ (List String) :=
  match s with
  | delimited d => d.tokenizeRecord line r trim
  | fixedWidth w => (.ok (w.slice line trim), r)

theorem remaining_split (s : Splitting) (line : String) (r : ρ) (trim : Bool) :
    LineSource.remaining (s.split line r trim).2 ≤ LineSource.remaining r := by
  cases s with
  | delimited d => exact d.remaining_tokenizeRecord line r trim
  | fixedWidth w => exact Nat.le_refl _

end Splitting

end PlainTables
