import PlainTables.Records

/-!
# Transposed tables

A transposed table starts with key rows, which hold one value per key column. Every later record has
regular fields and then one value per key column, and is melted into one record for each of them: the
keys of the column, the regular fields, and the value.
-/

namespace PlainTables

/-- A transposed table after its key rows. `position` is the key column that comes next for the record
in `data`. -/
structure MeltedTable (σ : Type) where
  inner : σ
  columns : List String := []
  keys : List (List String)
  keyColumns : Nat
  regularCount : Nat := 0
  data : List String := []
  position : Nat
  current : List String := []

namespace MeltedTable

variable {σ : Type} [RecordSource σ]

def fieldsFrom (s : σ) (first : Nat) : List String :=
  ((List.range (RecordSource.fieldCount s)).drop first).map fun i =>
    (RecordSource.field s i).getD ""

/-- Reads the key rows. Of `wanted` rows, `found` have been read before. -/
def readKeys (wanted fieldsToSkip : Nat) : Nat → Nat → σ → Except QueryError (List (List String) × σ)
  | 0, _, s => .ok ([], s)
  | n + 1, found, s => do
    let (more, s) := RecordSource.next s
    if ← more then
      let (keys, rest) ← readKeys wanted fieldsToSkip n (found + 1) s
      return (fieldsFrom s fieldsToSkip :: keys, rest)
    else .error (.truncatedBlock wanted found)

/-- Reads the next record to melt; false if there is none. -/
def loadData (t : MeltedTable σ) : Except QueryError Bool × MeltedTable σ :=
  match RecordSource.next t.inner with
  | (.error e, inner) => (.error e, { t with inner })
  | (.ok false, inner) => (.ok false, { t with inner, data := [] })
  | (.ok true, inner) => (.ok true, { t with inner, data := fieldsFrom inner 0, position := 0 })

/-- Melts a table. Without a header the number of regular fields is found from the first record. -/
def ofTable (inner : σ) (keyLines fieldsToSkip : Nat) (header : Option (List String)) :
    Except QueryError (MeltedTable σ) := do
  let (keys, inner) ← readKeys keyLines fieldsToSkip keyLines 0 inner
  let keyColumns := (keys.head?.map List.length).getD 0
  let t : MeltedTable σ := { inner, keys, keyColumns, position := keyColumns }
  match header with
  | some header =>
    if header.length < keyLines + 1 then
      .error (.invalidConfiguration (.transposedHeader keyLines header.length))
    else return { t with columns := header, regularCount := header.length - keyLines - 1 }
  | none =>
    let (loaded, t) := t.loadData
    let width := if ← loaded then t.data.length else keyColumns
    let regularCount := width - keyColumns
    return { t with regularCount, columns := numberedNames (keyLines + regularCount + 1) }

def melted (t : MeltedTable σ) (j : Nat) : List String :=
  t.keys.map (fun key => key.getD j "") ++
    (List.range t.regularCount).map (fun i => t.data.getD i "") ++
    [t.data.getD (t.regularCount + j) ""]

def next (t : MeltedTable σ) : Except QueryError Bool × MeltedTable σ :=
  if t.keyColumns = 0 then (.ok false, t)
  else
    match if t.keyColumns ≤ t.position then t.loadData else (.ok true, t) with
    | (.error e, t) => (.error e, t)
    | (.ok false, t) => (.ok false, { t with current := [] })
    | (.ok true, t) => (.ok true, { t with current := t.melted t.position, position := t.position + 1 })

/-- The key columns that are left for the current record, and all of them for every later one. -/
def remaining (t : MeltedTable σ) : Nat :=
  RecordSource.remaining t.inner * t.keyColumns + (t.keyColumns - t.position)

theorem remaining_next (t : MeltedTable σ) (h : t.next.1 = .ok true) :
    t.next.2.remaining < t.remaining := by
  unfold next at h ⊢
  by_cases hk : t.keyColumns = 0
  · simp [hk] at h
  · simp only [hk, if_false] at h ⊢
    by_cases hp : t.keyColumns ≤ t.position
    · simp only [hp, if_true, loadData] at h ⊢
      have hn := RecordSource.remaining_next t.inner
      generalize RecordSource.next t.inner = step at hn h ⊢
      obtain ⟨result, inner⟩ := step
      match result with
      | .error e => simp at h
      | .ok false => simp at h
      | .ok true =>
        have hlt : RecordSource.remaining inner + 1 ≤ RecordSource.remaining t.inner := hn rfl
        have := Nat.mul_le_mul_right t.keyColumns hlt
        rw [Nat.add_mul] at this
        simp only [remaining]
        omega
    · simp only [hp, if_false, remaining]
      omega

instance : RecordSource (MeltedTable σ) where
  columns := columns
  next := next
  field t i := t.current[i]?
  fieldCount t := t.current.length
  fileValues t := RecordSource.fileValues t.inner
  close t := { t with inner := RecordSource.close t.inner }
  remaining := remaining
  remaining_next := remaining_next

end MeltedTable

end PlainTables
