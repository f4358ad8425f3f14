import PlainTables.Text.Parts
import PlainTables.Value

/-!
# Fields of fixed width

Fields that stand at fixed places of a line, given as ranges of characters counted from one. A field
beyond the end of a line is empty.
-/

namespace PlainTables

structure CharRange where
  first : Nat
  last : Nat
deriving DecidableEq

namespace CharRange

def slice (range : CharRange) (line : List Char) : List Char :=
  (line.take range.last).drop (range.first - 1)

/-- Two parts of a text around its first hyphen, both the whole text if there is none. -/
def ends (s : List Char) : List Char × List Char :=
  match s.dropWhile (· ≠ '-') with
  | _ :: rest => (Text.trim (s.takeWhile (· ≠ '-')), Text.trim rest)
  | [] => (s, s)

/-- A range as `first-last`, or one number for a single character. -/
def ofText? (s : List Char) : Option CharRange := do
  let (a, b) := ends s
  let first ← Numeral.readUInt64? a
  let last ← Numeral.readUInt64? b
  if first = 0 ∨ last < first then none else some ⟨first.toNat, last.toNat⟩

end CharRange

structure FixedWidths where
  ranges : List CharRange
deriving DecidableEq

namespace FixedWidths

/-- Reads a list of ranges between commas. There is at least one. -/
def parse (list : String) : Except QueryError FixedWidths := do
  let ranges ← (Text.listItems list).mapM fun item =>
    match CharRange.ofText? item.toList with
    | some range => .ok range
    | none => .error (QueryError.invalidConfiguration (.fixedWidthRange item))
  if ranges.isEmpty then .error (.invalidConfiguration (.fixedWidthRange list)) else .ok ⟨ranges⟩

def slice (w : FixedWidths) (line : String) (trim : Bool) : List String :=
  w.ranges.map fun range =>
    let field := range.slice line.toList
    String.ofList (if trim then Text.trim field else field)

end FixedWidths

end PlainTables
