import PlainTables.Proofs.Records.Melted
import PlainTables.Records.Shape

/-!
# Melting records for all key columns

Every key column of every record is melted once: the records in their order, and for each of them the key
columns in theirs. A record that was read ahead to count the columns is one of them.
-/

namespace PlainTables

open RecordSource (Reads Gives)

def StaysEnded (σ : Type) [RecordSource σ] : Prop :=
  ∀ s : σ, (RecordSource.next s).1 = .ok false →
    (RecordSource.next (RecordSource.next s).2).1 = .ok false

theorem MemoryTable.staysEnded : StaysEnded MemoryTable := by
  rintro ⟨columns, rows, current⟩ ended
  cases rows with
  | nil => rfl
  | cons row rows => cases ended

theorem TextTable.staysEnded {ρ : Type} [LineSource ρ] : StaysEnded (TextTable ρ) := by
  intro t ended
  change t.next.1 = .ok false at ended
  have exhausted : t.next.2.exhausted = true := by
    unfold next at ended ⊢
    split at ended
    · rename_i exhausted
      rw [if_pos exhausted]
      exact exhausted
    · rename_i more
      rw [if_neg more]
      split at ended
      · cases ended
      · split at ended
        · cases ended
        · rfl
        · cases ended
  change t.next.2.next.1 = .ok false
  rw [next, if_pos exhausted]

section

variable {σ : Type} [RecordSource σ]

theorem TaggedTable.staysEnded (inside : StaysEnded σ) : StaysEnded (TaggedTable σ) := by
  intro t ended
  change t.next.2.next.1 = .ok false
  rw [result_next, inner_next]
  exact inside t.inner (t.result_next.symm.trans ended)

theorem RecordSource.staysEnded_sum {τ : Type} [RecordSource τ] (first : StaysEnded σ)
    (second : StaysEnded τ) : StaysEnded (σ ⊕ τ) := by
  rintro (s | t) ended
  · exact first s ended
  · exact second t ended

namespace MeltedTable

theorem staysEnded (inside : StaysEnded σ) : StaysEnded (MeltedTable σ) := by
  intro t ended
  by_cases none : t.keyColumns = 0
  · rw [next_of_noKeys none] at ended ⊢
    exact congrArg Prod.fst (next_of_noKeys none)
  · by_cases left : t.position < t.keyColumns
    · rw [next_of_position left] at ended
      cases ended
    · have beyond := Nat.le_of_not_lt left
      rcases step : RecordSource.next t.inner with ⟨e | _ | _, s⟩
      · cases (next_of_failed none beyond (congrArg Prod.fst step)).symm.trans ended
      · have again := inside t.inner (congrArg Prod.fst step)
        rw [step] at again
        have after : (RecordSource.next t).2 = { t with inner := s, data := [], current := [] } := by
          simp only [RecordSource.next, next, if_neg none, if_pos beyond, loadData]
          rw [step]
        rw [after]
        exact next_of_ended (t := { t with inner := s, data := [], current := [] }) none beyond again
      · have first := next_of_record none beyond step
        rw [first, next_of_position (t := t.onRecord s) (Nat.pos_of_ne_zero none)] at ended
        cases ended

/-- Too few records for the key rows are counted, unless an error stops the reading of them. -/
theorem readKeys_of_few {s : σ} {states : List σ} {stop : Option QueryError} (reads : Reads s states stop)
    (wanted skip : Nat) {count : Nat} (found : Nat) (few : states.length < count) :
    readKeys wanted skip count found s =
      .error (stop.getD (.truncatedBlock wanted (found + states.length))) := by
  induction reads generalizing count found with
  | @ended s atEnd =>
    have step : RecordSource.next s = (.ok false, (RecordSource.next s).2) := Prod.ext atEnd rfl
    obtain ⟨count, rfl⟩ := Nat.exists_eq_add_one_of_ne_zero (Nat.ne_zero_of_lt few)
    rw [readKeys, step]
    rfl
  | @failed s e atError =>
    have step : RecordSource.next s = (.error e, (RecordSource.next s).2) := Prod.ext atError rfl
    obtain ⟨count, rfl⟩ := Nat.exists_eq_add_one_of_ne_zero (Nat.ne_zero_of_lt few)
    rw [readKeys, step]
    rfl
  | @record s states stop atRecord _ ih =>
    have step : RecordSource.next s = (.ok true, (RecordSource.next s).2) := Prod.ext atRecord rfl
    obtain ⟨count, rfl⟩ := Nat.exists_eq_add_one_of_ne_zero (Nat.ne_zero_of_lt few)
    have rest := ih (found + 1) (Nat.lt_of_succ_lt_succ few)
    rw [readKeys, step]
    simp only [bind, Except.bind, if_true, rest, List.length_cons, Nat.add_assoc, Nat.add_comm 1]

/-- The number of regular fields: those that a header names beside the keys and the value, and without
one those of the first data record beside the values. -/
def regularFields (keyLines : Nat) (keys : List (List String)) (data : List (List (Option String))) :
    Option (List String) → Nat
  | some header => header.length - keyLines - 1
  | none => (data.head?.map List.length).getD 0 - countKeys keys

def meltedRows (keys : List (List String)) (regularCount : Nat) (data : List (List (Option String))) :
    List (List (Option String)) :=
  data.flatMap fun record => (List.range (countKeys keys)).map (row keys regularCount record)

theorem length_meltedRows (keys : List (List String)) (regularCount : Nat)
    (data : List (List (Option String))) :
    (meltedRows keys regularCount data).length = countKeys keys * data.length := by
  induction data with
  | nil => rfl
  | cons record data ih =>
    have first : (meltedRows keys regularCount (record :: data)).length =
        countKeys keys + (meltedRows keys regularCount data).length := by
      simp [meltedRows]
    rw [first, ih, List.length_cons, Nat.mul_succ, Nat.add_comm]

theorem length_of_mem_meltedRows {keys : List (List String)} {regularCount : Nat}
    {data : List (List (Option String))} {fields : List (Option String)}
    (melted : fields ∈ meltedRows keys regularCount data) :
    fields.length = keys.length + regularCount + 1 := by
  obtain ⟨record, -, melted⟩ := List.mem_flatMap.mp melted
  obtain ⟨j, -, rfl⟩ := List.mem_map.mp melted
  simp [row, Nat.add_assoc]

theorem length_columns {keyLines : Nat} {header : Option (List String)}
    (places : ∀ names ∈ header, keyLines + 1 ≤ names.length) (keys : List (List String))
    (data : List (List (Option String))) :
    (header.getD (numberedNames (keyLines + regularFields keyLines keys data header + 1))).length =
      keyLines + regularFields keyLines keys data header + 1 := by
  cases header with
  | none => simp [numberedNames]
  | some names =>
    have fits := places names rfl
    simp only [regularFields, Option.getD_some]
    omega

/-- Without key columns no row is asked for, and an error below the key rows is not met. -/
theorem rows_eq (keys : List (List String)) (regularCount : Nat) (data : List (List (Option String)))
    (stop : Option QueryError) :
    rows keys regularCount (data, stop) =
      (meltedRows keys regularCount data, if countKeys keys = 0 then none else stop) := by
  unfold rows
  split
  · rename_i none
    rw [meltedRows, none]
    exact Prod.ext (by simp) rfl
  · rfl

/-- The table below its key rows, before the first record to melt. -/
def belowKeys (inner : σ) (keys : List (List String)) (regularCount : Nat) (columns : List String) :
    MeltedTable σ :=
  { inner, columns, keys, keyColumns := countKeys keys, regularCount, position := countKeys keys }

section

variable {inner rest : σ} {keyLines fieldsToSkip : Nat} {keys : List (List String)}

theorem ofTable_of_header
    (read : readKeys keyLines fieldsToSkip keyLines 0 inner = .ok (keys, rest))
    {header : List String} (places : keyLines + 1 ≤ header.length) :
    ofTable inner keyLines fieldsToSkip (some header) =
      .ok (belowKeys rest keys (header.length - keyLines - 1) header) := by
  unfold ofTable
  rw [read]
  simp only [bind, Except.bind, if_neg (Nat.not_lt_of_le places)]
  rfl

theorem ofTable_of_failed
    (read : readKeys keyLines fieldsToSkip keyLines 0 inner = .ok (keys, rest)) {e : QueryError}
    (atError : (RecordSource.next rest).1 = .error e) :
    ofTable inner keyLines fieldsToSkip none = .error e := by
  have step : RecordSource.next rest = (.error e, (RecordSource.next rest).2) := Prod.ext atError rfl
  unfold ofTable
  rw [read]
  simp only [bind, Except.bind, loadData]
  rw [step]

theorem ofTable_of_ended
    (read : readKeys keyLines fieldsToSkip keyLines 0 inner = .ok (keys, rest))
    (atEnd : (RecordSource.next rest).1 = .ok false) :
    ofTable inner keyLines fieldsToSkip none =
      .ok (belowKeys (RecordSource.next rest).2 keys 0 (numberedNames (keyLines + 0 + 1))) := by
  have step : RecordSource.next rest = (.ok false, (RecordSource.next rest).2) := Prod.ext atEnd rfl
  have none : (keys.head?.map List.length).getD 0 - (keys.head?.map List.length).getD 0 = 0 :=
    Nat.sub_self _
  unfold ofTable
  rw [read]
  simp only [bind, Except.bind, loadData]
  rw [step]
  simp only [pure, Except.pure, Bool.false_eq_true, if_false, none]
  rfl

/-- The first data record, which is read ahead for its width, is the one that is melted first. -/
theorem ofTable_of_record
    (read : readKeys keyLines fieldsToSkip keyLines 0 inner = .ok (keys, rest)) {s : σ}
    (step : RecordSource.next rest = (.ok true, s)) {regularCount : Nat}
    (width : (RecordSource.fields s).length - countKeys keys = regularCount) :
    ofTable inner keyLines fieldsToSkip none =
      .ok ((belowKeys rest keys regularCount
        (numberedNames (keyLines + regularCount + 1))).onRecord s) := by
  have length : (fieldsFrom s 0).length = (RecordSource.fields s).length := by
    simp [fieldsFrom_eq, keysOf]
  have regular : (fieldsFrom s 0).length - (keys.head?.map List.length).getD 0 = regularCount := by
    rw [length]
    exact width
  unfold ofTable
  rw [read]
  simp only [bind, Except.bind, loadData]
  rw [step]
  simp only [pure, Except.pure, if_true, regular]
  rfl

theorem gives_below {states : List σ} {stop : Option QueryError}
    (reads : RecordSource.Reads rest states stop) (regularCount : Nat) (columns : List String) :
    RecordSource.Gives RecordSource.fields (belowKeys rest keys regularCount columns)
      (rows keys regularCount (states.map RecordSource.fields, stop)) :=
  gives_belowKeys (t := belowKeys rest keys regularCount columns) rfl (Nat.le_refl _) reads

theorem gives_onRecord {t : MeltedTable σ} {outcome : Outcome (List (Option String))}
    (gives : RecordSource.Gives RecordSource.fields t outcome) (beyond : t.keyColumns ≤ t.position)
    {s : σ} (step : RecordSource.next t.inner = (.ok true, s)) :
    RecordSource.Gives RecordSource.fields (t.onRecord s) outcome := by
  by_cases none : t.keyColumns = 0
  · have before := next_of_noKeys none
    have after := next_of_noKeys (t := t.onRecord s) none
    refine gives.congr (by rw [before, after]) fun more => ?_
    rw [after] at more
    cases more
  · have same := next_of_record none beyond step
    exact gives.congr (congrArg Prod.fst same.symm) fun _ => congrArg Prod.snd same.symm

theorem exists_of_keys (inside : StaysEnded σ)
    (read : readKeys keyLines fieldsToSkip keyLines 0 inner = .ok (keys, rest))
    {header : Option (List String)} (places : ∀ names ∈ header, keyLines + 1 ≤ names.length)
    {states : List σ} {stop : Option QueryError} (reads : RecordSource.Reads rest states stop)
    (width : header = none → states = [] → stop = none) {regularCount : Nat}
    (regular : regularFields keyLines keys (states.map RecordSource.fields) header = regularCount) :
    ∃ t, ofTable inner keyLines fieldsToSkip header = .ok t ∧
      RecordSource.columns t = header.getD (numberedNames (keyLines + regularCount + 1)) ∧
      RecordSource.Gives RecordSource.fields t
        (rows keys regularCount (states.map RecordSource.fields, stop)) := by
  cases header with
  | some names =>
    subst regular
    exact ⟨_, ofTable_of_header read (places names rfl), rfl, gives_below reads _ _⟩
  | none =>
    cases reads with
    | ended atEnd =>
      have noFields : regularCount = 0 := by
        simpa [regularFields] using regular.symm
      subst noFields
      have again := inside rest atEnd
      exact ⟨_, ofTable_of_ended read atEnd, rfl, gives_below (.ended again) _ _⟩
    | failed atError => cases width rfl rfl
    | record atRecord later =>
      have step : RecordSource.next rest = (.ok true, (RecordSource.next rest).2) :=
        Prod.ext atRecord rfl
      refine ⟨_, ofTable_of_record read step regular, rfl, ?_⟩
      exact gives_onRecord (gives_below (.record atRecord later) _ _) (Nat.le_refl _) step

end

end MeltedTable

end

namespace TableShape

theorem staysEnded (shape : TableShape) : StaysEnded shape.Source := by
  induction shape with
  | memory => exact MemoryTable.staysEnded
  | text => exact TextTable.staysEnded
  | fileSet => exact TextTable.staysEnded
  | tagged inner inside => exact TaggedTable.staysEnded inside
  | melted inner inside => exact MeltedTable.staysEnded inside
  | choice first second ofFirst ofSecond => exact RecordSource.staysEnded_sum ofFirst ofSecond

open MeltedTable (keysOf countKeys regularFields meltedRows)

/-- Melting a table gives one row for every data record and every key column, in this order and none of
them twice. A row has a field for every column. The record that is read ahead for the number of regular
fields is melted like the others. Only an error, or too few records for the key rows, keeps a table from
being melted. -/
theorem melts_every_key (shape : TableShape) (inner : shape.Source) (keyLines fieldsToSkip : Nat)
    (header : Option (List String))
    (places : ∀ names ∈ header, keyLines + 1 ≤ names.length)
    {records : List (List (Option String))} {stop : Option QueryError}
    (gives : Gives RecordSource.fields inner (records, stop)) :
    let melted := MeltedTable.ofTable inner keyLines fieldsToSkip header
    let keys := (records.take keyLines).map (keysOf fieldsToSkip)
    let data := records.drop keyLines
    let regularCount := regularFields keyLines keys data header
    let rows := meltedRows keys regularCount data
    (records.length < keyLines →
      melted = .error (stop.getD (.truncatedBlock keyLines records.length))) ∧
    (keyLines ≤ records.length → header = none → data = [] → ∀ e, stop = some e →
      melted = .error e) ∧
    (keyLines ≤ records.length → (header = none → data = [] → stop = none) →
      ∃ t, melted = .ok t ∧
        RecordSource.columns t = header.getD (numberedNames (keyLines + regularCount + 1)) ∧
        Gives RecordSource.fields t (rows, if countKeys keys = 0 then none else stop) ∧
        (∀ fields ∈ rows, fields.length = (RecordSource.columns t).length) ∧
        rows.length = countKeys keys * data.length) := by
  obtain ⟨states, reads, rfl⟩ := gives
  simp only [List.length_map]
  refine ⟨fun few => ?_, fun enough noHeader noData e stopped => ?_, fun enough width => ?_⟩
  · have fails := MeltedTable.readKeys_of_few reads keyLines fieldsToSkip 0 few
    rw [Nat.zero_add] at fails
    simp only [MeltedTable.ofTable, fails]
    rfl
  · obtain ⟨rest, read, left⟩ := MeltedTable.readKeys_of_reads reads keyLines fieldsToSkip 0 enough
    rw [← List.map_drop, List.map_eq_nil_iff] at noData
    rw [noData] at left
    subst noHeader stopped
    cases left with
    | failed atError => exact MeltedTable.ofTable_of_failed read atError
  · obtain ⟨rest, read, left⟩ := MeltedTable.readKeys_of_reads reads keyLines fieldsToSkip 0 enough
    rw [← List.map_drop] at width ⊢
    have width' (noHeader : header = none) (noData : states.drop keyLines = []) : stop = none :=
      width noHeader (by rw [noData]; rfl)
    obtain ⟨t, melts, columns, given⟩ :=
      MeltedTable.exists_of_keys shape.staysEnded read places left width' rfl
    rw [MeltedTable.rows_eq] at given
    refine ⟨t, melts, columns, given, fun fields melted => ?_, MeltedTable.length_meltedRows _ _ _⟩
    have lines : (((states.map RecordSource.fields).take keyLines).map
        (keysOf fieldsToSkip)).length = keyLines := by
      simpa using Nat.min_eq_left enough
    rw [MeltedTable.length_of_mem_meltedRows melted, columns, MeltedTable.length_columns places, lines]

/-- Two key columns, one regular field, and a data record that is too short for its second value. -/
theorem melts_every_key_of_memory :
    ∃ t, MeltedTable.ofTable
          (MemoryTable.mk [] [["unit", "A", "B"], ["x", "1", "2"], ["y", "3"]] []) 1 1 none = .ok t ∧
      RecordSource.columns t = ["COLUMN1", "COLUMN2", "COLUMN3"] ∧
      Gives RecordSource.fields t
        ([["A", "x", "1"], ["B", "x", "2"], ["A", "y", "3"], ["B", "y", ""]].map (·.map some), none) := by
  have found : RecordSource.outcomeWithin RecordSource.fields 4
      (MemoryTable.mk [] [["unit", "A", "B"], ["x", "1", "2"], ["y", "3"]] []) =
      some ([["unit", "A", "B"], ["x", "1", "2"], ["y", "3"]].map (·.map some), none) := by
    decide +kernel
  have gives := RecordSource.gives_of_outcomeWithin found
  obtain ⟨t, melts, columns, rows, -⟩ :=
    (melts_every_key .memory _ 1 1 none (by simp) gives).2.2 (by decide) (by simp)
  exact ⟨t, melts, columns, rows⟩

end TableShape

end PlainTables
