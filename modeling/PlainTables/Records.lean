import PlainTables.QueryError

/-!
# Record sources

A record source hands out the records of a table one after the other, as fields under the table's
column names. Taking a record uses it up, which is what ends every loop over records.
-/

namespace PlainTables

/-- A source of records. -/
class RecordSource (σ : Type) where
  /-- The names of the columns. -/
  columns : σ → List String
  /-- Goes on to the next record; false if there is none. -/
  next : σ → Except QueryError Bool × σ
  /-- A trimmed field of the current record; none past the end of a short one. -/
  field : σ → Nat → Option String
  /-- The number of fields of the current record. -/
  fieldCount : σ → Nat
  /-- What the name of the file adds from which the current record comes. -/
  fileValues : σ → List String
  /-- Releases the files. -/
  close : σ → σ
  /-- A bound on the number of records that are left. -/
  remaining : σ → Nat
  remaining_next : ∀ s, (next s).1 = .ok true → remaining (next s).2 < remaining s

namespace RecordSource

variable {σ : Type} [RecordSource σ]

def fields (s : σ) : List (Option String) :=
  (List.range (fieldCount s)).map (field s)

variable {τ : Type} [RecordSource τ]

/-- A step of a table that is of one kind or the other. -/
def nextOfSum : σ ⊕ τ → Except QueryError Bool × (σ ⊕ τ)
  | .inl s => ((next s).1, .inl (next s).2)
  | .inr t => ((next t).1, .inr (next t).2)

instance : RecordSource (σ ⊕ τ) where
  columns := Sum.elim columns columns
  next := nextOfSum
  field := Sum.elim field field
  fieldCount := Sum.elim fieldCount fieldCount
  fileValues := Sum.elim fileValues fileValues
  close := Sum.map close close
  remaining := Sum.elim remaining remaining
  remaining_next s h := by
    cases s with
    | inl s => exact remaining_next s h
    | inr t => exact remaining_next t h

end RecordSource

/-- Names for columns that have none. -/
def numberedNames (count : Nat) : List String :=
  (List.range count).map fun i => "COLUMN" ++ toString (i + 1)

end PlainTables
