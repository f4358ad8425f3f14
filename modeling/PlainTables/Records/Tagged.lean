import PlainTables.Records

/-!
# Records with file name values

The parts of a file's name become fields of every record in it, under columns of their own before or
after those of the file.
-/

namespace PlainTables

structure TaggedTable (σ : Type) where
  inner : σ
  columns : List String
  prepended : Bool
  values : List String := []

namespace TaggedTable

variable {σ : Type} [RecordSource σ]

def ofTable (inner : σ) (names : List String) (prepended : Bool) : TaggedTable σ where
  inner
  columns :=
    if prepended then names ++ RecordSource.columns inner else RecordSource.columns inner ++ names
  prepended

/-- The fields that belong to the file: a short record is filled up to its columns, a long one keeps
all its fields. -/
def ownWidth (t : TaggedTable σ) : Nat :=
  max (RecordSource.fieldCount t.inner) (RecordSource.columns t.inner).length

def next (t : TaggedTable σ) : Except QueryError Bool × TaggedTable σ :=
  match RecordSource.next t.inner with
  | (.error e, inner) => (.error e, { t with inner })
  | (.ok false, inner) => (.ok false, { t with inner, values := [] })
  | (.ok true, inner) => (.ok true, { t with inner, values := RecordSource.fileValues inner })

theorem result_next (t : TaggedTable σ) : t.next.1 = (RecordSource.next t.inner).1 := by
  unfold next
  split <;> rename_i step <;> rw [step]

theorem inner_next (t : TaggedTable σ) : t.next.2.inner = (RecordSource.next t.inner).2 := by
  unfold next
  split <;> rename_i step <;> rw [step]

def field (t : TaggedTable σ) (i : Nat) : Option String :=
  if t.prepended then
    if i < t.values.length then t.values[i]? else RecordSource.field t.inner (i - t.values.length)
  else if i < t.ownWidth then RecordSource.field t.inner i
  else t.values[i - t.ownWidth]?

instance : RecordSource (TaggedTable σ) where
  columns := columns
  next := next
  field := field
  fieldCount t := t.ownWidth + t.values.length
  fileValues t := RecordSource.fileValues t.inner
  close t := { t with inner := RecordSource.close t.inner }
  remaining t := RecordSource.remaining t.inner
  remaining_next t h := by
    have hn := RecordSource.remaining_next t.inner
    unfold next at h ⊢
    generalize RecordSource.next t.inner = step at hn h ⊢
    obtain ⟨result, inner⟩ := step
    match result with
    | .error e => simp at h
    | .ok false => simp at h
    | .ok true => exact hn rfl

end TaggedTable

end PlainTables
