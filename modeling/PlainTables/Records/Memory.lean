import PlainTables.Records
import PlainTables.Text.Characters

/-!
# Records in memory

A table whose records are given as lists of fields.
-/

namespace PlainTables

structure MemoryTable where
  columns : List String
  rows : List (List String)
  current : List String := []
deriving DecidableEq

namespace MemoryTable

/-- One record without fields, over which a SELECT without FROM runs. -/
def singleEmptyRow : MemoryTable where
  columns := []
  rows := [[]]

def next (t : MemoryTable) : Except QueryError Bool × MemoryTable :=
  match t.rows with
  | row :: rows => (.ok true, { t with rows, current := row })
  | [] => (.ok false, { t with current := [] })

instance : RecordSource MemoryTable where
  columns := columns
  next := next
  field t i := (t.current[i]?).map Text.trimmed
  fieldCount t := t.current.length
  fileValues _ := []
  close t := { t with rows := [] }
  remaining t := t.rows.length
  remaining_next t h := by
    unfold next at h ⊢
    cases hr : t.rows <;> simp_all

end MemoryTable

end PlainTables
