import PlainTables.Text.Casing
import PlainTables.Value

/-!
# Columns and rows

The named columns of a table or result, and rows over them. Names are found without regard to case;
of several columns with one name the first is meant.
-/

namespace PlainTables

/-- The columns of a table or result, in order. -/
structure Columns where
  names : List String
deriving DecidableEq

namespace Columns

def size (c : Columns) : Nat := c.names.length

/-- Two names are the same up to case. -/
def same (a b : String) : Bool :=
  Text.uppercase a = Text.uppercase b

def position? (c : Columns) (name : String) : Option Nat :=
  c.names.findIdx? (same · name)

end Columns

/-- Values under columns. A row may be shorter than its columns. -/
structure Row where
  columns : Columns
  values : List Value
deriving DecidableEq

namespace Row

def get? (r : Row) (name : String) : Option Value :=
  (r.columns.position? name).bind fun i => r.values[i]?

end Row

end PlainTables
