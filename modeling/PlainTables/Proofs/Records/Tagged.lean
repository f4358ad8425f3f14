import PlainTables.Proofs.Records.Outcome
import PlainTables.Proofs.Records.TextRecord
import PlainTables.Records.Tagged

/-!
# Reading records with file name values

A tagged table is read through the same states as the table inside it. Every record has the values of
the file that the lines come from when it has been read.
-/

namespace PlainTables

/-- A record with the values of its file's name, under the columns of a table of this width. -/
def addValues (prepended : Bool) (width : Nat) (own : List (Option String)) (values : List String) :
    List (Option String) :=
  let filled := own ++ List.replicate (width - own.length) none
  if prepended then values.map some ++ filled else filled ++ values.map some

namespace TaggedTable

section

variable {σ : Type} [RecordSource σ]

def atState (t : TaggedTable σ) (s : σ) : TaggedTable σ :=
  { t with inner := s, values := RecordSource.fileValues s }

theorem reads_atState {t : TaggedTable σ} {states : List σ} {stop : Option QueryError}
    (reads : RecordSource.Reads t.inner states stop) :
    RecordSource.Reads t (states.map t.atState) stop := by
  generalize inner : t.inner = s at reads
  induction reads generalizing t with
  | @ended s atEnd =>
    have step : RecordSource.next s = (.ok false, (RecordSource.next s).2) := Prod.ext atEnd rfl
    refine .ended ?_
    simp only [RecordSource.next, TaggedTable.next, inner]
    rw [step]
  | @failed s e atError =>
    have step : RecordSource.next s = (.error e, (RecordSource.next s).2) := Prod.ext atError rfl
    refine .failed ?_
    simp only [RecordSource.next, TaggedTable.next, inner]
    rw [step]
  | @record s states stop atRecord _ ih =>
    have step : RecordSource.next s = (.ok true, (RecordSource.next s).2) := Prod.ext atRecord rfl
    have next : RecordSource.next t = (.ok true, t.atState (RecordSource.next s).2) := by
      simp only [RecordSource.next, TaggedTable.next, inner]
      rw [step]
      rfl
    have rest : RecordSource.Reads (RecordSource.next t).2 (states.map t.atState) stop := by
      rw [next]
      exact ih (t := t.atState (RecordSource.next s).2) rfl
    have whole := RecordSource.Reads.record (congrArg Prod.fst next) rest
    rw [next] at whole
    exact whole

end

section

variable {ρ : Type} [LineSource ρ]

theorem columns_of_reads {t : TextTable ρ} {states : List (TextTable ρ)} {stop : Option QueryError}
    (reads : RecordSource.Reads t states stop) : ∀ s ∈ states, s.columns = t.columns := by
  induction reads with
  | ended => simp
  | failed => simp
  | @record t states stop _ _ ih =>
    have kept : (RecordSource.next t).2.columns = t.columns := by
      change t.next.2.columns = t.columns
      unfold TextTable.next
      split
      · rfl
      · split
        · rfl
        · split <;> rfl
    intro s mem
    rcases List.mem_cons.mp mem with rfl | mem
    · exact kept
    · exact (ih s mem).trans kept

theorem map_getElem?_range {α : Type} (l : List α) :
    (List.range l.length).map (fun i => l[i]?) = l.map some := by
  apply List.ext_getElem
  · simp
  · intro i inRange inList
    have bound : i < l.length := by simpa using inList
    simp [bound]

theorem map_field_range (t : TaggedTable (TextTable ρ)) :
    (List.range t.ownWidth).map (RecordSource.field t.inner) =
      RecordSource.fields t.inner ++
        List.replicate (t.inner.columns.length - (RecordSource.fields t.inner).length) none := by
  have count : (RecordSource.fields t.inner).length = t.inner.fields.length := by
    simp [RecordSource.fields, RecordSource.fieldCount]
  have width : t.ownWidth =
      t.inner.fields.length + (t.inner.columns.length - t.inner.fields.length) := by
    change max t.inner.fields.length t.inner.columns.length = _
    omega
  have missing : (List.range (t.inner.columns.length - t.inner.fields.length)).map
      (fun i => RecordSource.field t.inner (t.inner.fields.length + i)) =
      List.replicate (t.inner.columns.length - t.inner.fields.length) none := by
    rw [List.eq_replicate_iff]
    refine ⟨by simp, ?_⟩
    intro field mem
    obtain ⟨i, _, rfl⟩ := List.mem_map.mp mem
    have beyond : t.inner.fields[t.inner.fields.length + i]? = none :=
      List.getElem?_eq_none (Nat.le_add_right _ _)
    exact congrArg (Option.map Text.trimmed) beyond
  rw [count, width, List.range_add, List.map_append, List.map_map]
  exact congrArg (_ ++ ·) missing

/-- What can be seen of a tagged record are the fields of the file and the values of its name. -/
theorem fields_eq (t : TaggedTable (TextTable ρ)) :
    RecordSource.fields t =
      addValues t.prepended t.inner.columns.length (RecordSource.fields t.inner) t.values := by
  have own := map_field_range t
  have added := map_getElem?_range t.values
  change (List.range (t.ownWidth + t.values.length)).map t.field = _
  unfold addValues
  simp only
  rw [← own, ← added]
  cases place : t.prepended with
  | true =>
    rw [if_pos rfl, Nat.add_comm, List.range_add, List.map_append, List.map_map]
    congr 1
    · refine List.map_congr_left fun i mem => ?_
      rw [field, place, if_pos rfl, if_pos (List.mem_range.mp mem)]
    · refine List.map_congr_left fun i _ => ?_
      rw [Function.comp_apply, field, place, if_pos rfl, if_neg (by omega), Nat.add_sub_cancel_left]
  | false =>
    rw [if_neg Bool.false_ne_true, List.range_add, List.map_append, List.map_map]
    congr 1
    · refine List.map_congr_left fun i mem => ?_
      rw [field, place, if_neg Bool.false_ne_true, if_pos (List.mem_range.mp mem)]
    · refine List.map_congr_left fun i _ => ?_
      rw [Function.comp_apply, field, place, if_neg Bool.false_ne_true, if_neg (by omega),
        Nat.add_sub_cancel_left]

/-- A tagged table gives the records of the table inside it, with the values of the files that they
come from. -/
theorem gives_ofTable {table : TextTable ρ} {outcome : Outcome (List String × ρ)}
    (gives : RecordSource.Gives TextTable.shown table outcome)
    (names : List String) (prepended : Bool) :
    RecordSource.Gives RecordSource.fields (ofTable table names prepended)
      (outcome.map fun record => addValues prepended table.columns.length
        (record.1.map fun field => some (Text.trimmed field)) (LineSource.fileValues record.2)) := by
  obtain ⟨states, reads, same⟩ := gives
  refine ⟨_, reads_atState (t := ofTable table names prepended) reads, ?_⟩
  simp only [Outcome.map]
  rw [← same, List.map_map, List.map_map]
  refine List.map_congr_left fun s mem => ?_
  have columns := columns_of_reads reads s mem
  simp only [Function.comp_apply, fields_eq, atState, columns, TextTable.fields_eq]
  rfl

end

end TaggedTable

end PlainTables
