import PlainTables.Proofs.Records.Outcome
import PlainTables.Records.Melted

/-!
# Reading a transposed table

The first records of a transposed table are its key rows. Each record below them is melted into one row
for every key column, so that the rows of a table follow from its records.
-/

namespace PlainTables.MeltedTable

/-- The values of a key row below those of its record that are not keys. -/
def keysOf (fieldsToSkip : Nat) (record : List (Option String)) : List String :=
  (record.drop fieldsToSkip).map (·.getD "")

def countKeys (keys : List (List String)) : Nat :=
  (keys.head?.map List.length).getD 0

/-- The row for one key column of a record: its keys, the regular fields, and the value. -/
def row (keys : List (List String)) (regularCount : Nat) (record : List (Option String)) (j : Nat) :
    List (Option String) :=
  let value (i : Nat) := (record.getD i none).getD ""
  (keys.map (·.getD j "") ++ (List.range regularCount).map value ++ [value (regularCount + j)]).map some

/-- The rows that records are melted into. Without key columns there are none. -/
def rows (keys : List (List String)) (regularCount : Nat) (records : Outcome (List (Option String))) :
    Outcome (List (Option String)) :=
  if countKeys keys = 0 then ([], none)
  else records.flatMap fun record => (List.range (countKeys keys)).map (row keys regularCount record)

section

variable {keys : List (List String)} {regularCount : Nat}

theorem rows_followedBy (first second : Outcome (List (Option String))) :
    rows keys regularCount (first.followedBy second) =
      (rows keys regularCount first).followedBy (rows keys regularCount second) := by
  unfold rows
  split
  · rfl
  · exact Outcome.flatMap_followedBy _ first second

theorem rows_joined (outcomes : List (Outcome (List (Option String)))) :
    rows keys regularCount (Outcome.joined outcomes) =
      Outcome.joined (outcomes.map (rows keys regularCount)) := by
  induction outcomes with
  | nil =>
    change rows keys regularCount ([], none) = ([], none)
    unfold rows
    split <;> rfl
  | cons first others ih =>
    change rows keys regularCount (first.followedBy (Outcome.joined others)) = _
    rw [rows_followedBy, ih]
    rfl

/-- Fields that are not there at the end of a record are the same as none. -/
theorem row_append_replicate (record : List (Option String)) (count : Nat) :
    row keys regularCount (record ++ List.replicate count none) = row keys regularCount record := by
  have same (i : Nat) : (record ++ List.replicate count none).getD i none = record.getD i none := by
    simp only [List.getD_eq_getElem?_getD, List.getElem?_append, List.getElem?_replicate]
    split
    · rfl
    · rename_i beyond
      rw [List.getElem?_eq_none (by omega)]
      split <;> rfl
  funext j
  simp only [row, same]

end

variable {σ : Type} [RecordSource σ]

theorem fieldsFrom_eq (s : σ) (first : Nat) :
    fieldsFrom s first = keysOf first (RecordSource.fields s) := by
  rw [fieldsFrom, keysOf, RecordSource.fields, ← List.map_drop, List.map_map]
  rfl

theorem readKeys_of_reads {s : σ} {states : List σ} {stop : Option QueryError}
    (reads : RecordSource.Reads s states stop) (wanted skip : Nat) {count : Nat} (found : Nat)
    (enough : count ≤ states.length) :
    ∃ s', readKeys wanted skip count found s =
        .ok (((states.map RecordSource.fields).take count).map (keysOf skip), s') ∧
      RecordSource.Reads s' (states.drop count) stop := by
  induction count generalizing s states found with
  | zero => exact ⟨s, rfl, reads⟩
  | succ count ih =>
    cases reads with
    | ended => cases enough
    | failed => cases enough
    | record atRecord rest =>
      obtain ⟨s', read, left⟩ := ih rest (found + 1) (Nat.le_of_succ_le_succ enough)
      refine ⟨s', ?_, left⟩
      have step : RecordSource.next s = (.ok true, (RecordSource.next s).2) := Prod.ext atRecord rfl
      rw [readKeys, step]
      simp only [bind, Except.bind, read, if_true, pure, Except.pure, fieldsFrom_eq]
      rfl

theorem le_length_of_readKeys {s s' : σ} {states : List σ} {stop : Option QueryError}
    (reads : RecordSource.Reads s states stop) {wanted skip count found : Nat}
    {keys : List (List String)} (read : readKeys wanted skip count found s = .ok (keys, s')) :
    count ≤ states.length := by
  induction count generalizing s s' states found keys with
  | zero => exact Nat.zero_le _
  | succ count ih =>
    rw [readKeys] at read
    cases reads with
    | ended atEnd =>
      have step : RecordSource.next s = (.ok false, (RecordSource.next s).2) := Prod.ext atEnd rfl
      rw [step] at read
      cases read
    | failed atError =>
      have step : RecordSource.next s = (.error _, (RecordSource.next s).2) := Prod.ext atError rfl
      rw [step] at read
      cases read
    | record atRecord rest =>
      have step : RecordSource.next s = (.ok true, (RecordSource.next s).2) := Prod.ext atRecord rfl
      rw [step] at read
      obtain ⟨more, result, read⟩ := bind_eq_ok_iff.mp read
      cases result
      obtain ⟨⟨others, s''⟩, read, _⟩ := bind_eq_ok_iff.mp read
      exact Nat.succ_le_succ (ih rest read)

variable {t : MeltedTable σ}

theorem next_of_noKeys (none : t.keyColumns = 0) : RecordSource.next t = (.ok false, t) := by
  simp only [RecordSource.next, next, if_pos none]

/-- What comes next in the middle of a record is the row for the next key column. -/
theorem next_of_position (inside : t.position < t.keyColumns) :
    RecordSource.next t =
      (.ok true, { t with current := t.melted t.position, position := t.position + 1 }) := by
  have some : t.keyColumns ≠ 0 := Nat.ne_zero_of_lt inside
  simp only [RecordSource.next, next, if_neg some, if_neg (Nat.not_le_of_lt inside)]

theorem next_of_ended (some : t.keyColumns ≠ 0) (beyond : t.keyColumns ≤ t.position)
    (atEnd : (RecordSource.next t.inner).1 = .ok false) :
    (RecordSource.next t).1 = .ok false := by
  have step : RecordSource.next t.inner = (.ok false, (RecordSource.next t.inner).2) :=
    Prod.ext atEnd rfl
  simp only [RecordSource.next, next, if_neg some, if_pos beyond, loadData]
  rw [step]

theorem next_of_failed (some : t.keyColumns ≠ 0) (beyond : t.keyColumns ≤ t.position)
    {e : QueryError} (atError : (RecordSource.next t.inner).1 = .error e) :
    (RecordSource.next t).1 = .error e := by
  have step : RecordSource.next t.inner = (.error e, (RecordSource.next t.inner).2) :=
    Prod.ext atError rfl
  simp only [RecordSource.next, next, if_neg some, if_pos beyond, loadData]
  rw [step]

def onRecord (t : MeltedTable σ) (s : σ) : MeltedTable σ :=
  { t with inner := s, data := fieldsFrom s 0, position := 0 }

theorem next_of_record (some : t.keyColumns ≠ 0) (beyond : t.keyColumns ≤ t.position) {s : σ}
    (step : RecordSource.next t.inner = (.ok true, s)) :
    RecordSource.next t = RecordSource.next (t.onRecord s) := by
  rw [next_of_position (t := t.onRecord s) (Nat.pos_of_ne_zero some)]
  simp only [RecordSource.next, next, if_neg some, if_pos beyond, loadData]
  rw [step]
  rfl

theorem fields_eq (t : MeltedTable σ) : RecordSource.fields t = t.current.map some := by
  have width : RecordSource.fields t = (List.range t.current.length).map (t.current[·]?) := rfl
  rw [width]
  exact List.ext_getElem (by simp) (by simp)

omit [RecordSource σ] in
theorem melted_eq {record : List (Option String)} (data : t.data = record.map (·.getD "")) (j : Nat) :
    (t.melted j).map some = row t.keys t.regularCount record j := by
  have value (i : Nat) : t.data.getD i "" = (record.getD i none).getD "" := by
    rw [data, List.getD_eq_getElem?_getD, List.getD_eq_getElem?_getD, List.getElem?_map]
    cases record[i]? <;> rfl
  simp only [melted, row, value]

/-- In the middle of a record the rows for the key columns that are left come first. -/
theorem gives_left {record : List (Option String)} {others : Outcome (List (Option String))}
    (data : t.data = record.map (·.getD "")) (inside : t.position ≤ t.keyColumns)
    (below : ∀ current, RecordSource.Gives RecordSource.fields
      { t with current, position := t.keyColumns } others) :
    RecordSource.Gives RecordSource.fields t
      (((List.range t.keyColumns).drop t.position).map (row t.keys t.regularCount record) ++ others.1,
        others.2) := by
  -- The induction is on the number of key columns that are left of the record.
  induction left : t.keyColumns - t.position generalizing t with
  | zero =>
    have atEnd : t.position = t.keyColumns := by omega
    have here : { t with current := t.current, position := t.keyColumns } = t := by
      cases t
      cases atEnd
      rfl
    have rest := below t.current
    rw [here] at rest
    rw [atEnd, List.drop_eq_nil_of_le (by simp)]
    exact rest
  | succ n ih =>
    have inside' : t.position < t.keyColumns := by omega
    have step := next_of_position inside'
    obtain ⟨states, reads, same⟩ :=
      ih (t := { t with current := t.melted t.position, position := t.position + 1 }) data inside'
        below (by simp only; omega)
    have whole := RecordSource.Reads.record (congrArg Prod.fst step) (by rw [step]; exact reads)
    refine ⟨_, whole, ?_⟩
    rw [List.drop_eq_getElem_cons (by simpa using inside'), List.map_cons, same, step, fields_eq,
      melted_eq data]
    simp

theorem gives_rows {states : List σ} {stop : Option QueryError} (some : t.keyColumns ≠ 0)
    (beyond : t.keyColumns ≤ t.position) (reads : RecordSource.Reads t.inner states stop) :
    RecordSource.Gives RecordSource.fields t
      (Outcome.flatMap (fun record => (List.range t.keyColumns).map (row t.keys t.regularCount record))
        (states.map RecordSource.fields, stop)) := by
  generalize inner : t.inner = s at reads
  induction reads generalizing t with
  | ended atEnd => exact ⟨[], .ended (next_of_ended some beyond (inner ▸ atEnd)), rfl⟩
  | failed atError => exact ⟨[], .failed (next_of_failed some beyond (inner ▸ atError)), rfl⟩
  | @record s states stop atRecord _ ih =>
    subst inner
    have step : RecordSource.next t.inner = (.ok true, (RecordSource.next t.inner).2) :=
      Prod.ext atRecord rfl
    generalize (RecordSource.next t.inner).2 = s at step ih ⊢
    have first := next_of_record some beyond step
    have below (current : List String) : RecordSource.Gives RecordSource.fields
        { t.onRecord s with current, position := t.keyColumns }
        (Outcome.flatMap
          (fun record => (List.range t.keyColumns).map (row t.keys t.regularCount record))
          (states.map RecordSource.fields, stop)) :=
      ih (t := { t.onRecord s with current, position := t.keyColumns }) some (Nat.le_refl _) rfl
    have data : (t.onRecord s).data = (RecordSource.fields s).map (·.getD "") := by
      simp only [onRecord, fieldsFrom_eq, keysOf, List.drop_zero]
    have here := gives_left data (Nat.zero_le _) below
    exact here.congr (congrArg Prod.fst first) fun _ => congrArg Prod.snd first

theorem gives_belowKeys {states : List σ} {stop : Option QueryError}
    (count : t.keyColumns = countKeys t.keys) (beyond : t.keyColumns ≤ t.position)
    (reads : RecordSource.Reads t.inner states stop) :
    RecordSource.Gives RecordSource.fields t
      (rows t.keys t.regularCount (states.map RecordSource.fields, stop)) := by
  unfold rows
  rw [← count]
  split
  · rename_i none
    exact ⟨[], .ended (congrArg Prod.fst (next_of_noKeys none)), rfl⟩
  · rename_i some
    exact gives_rows some beyond reads

/-- A table with a header is melted if its key rows are there and the header has a place for each of
them and for the value. It gives the rows of the records below the key rows. -/
theorem gives_ofTable {inner : σ} {records : Outcome (List (Option String))}
    (gives : RecordSource.Gives RecordSource.fields inner records) {keyLines fieldsToSkip : Nat}
    {header : List String} (melted : ofTable inner keyLines fieldsToSkip (some header) = .ok t) :
    keyLines ≤ records.1.length ∧ keyLines < header.length ∧
      t.keys = (records.1.take keyLines).map (keysOf fieldsToSkip) ∧
      RecordSource.Gives RecordSource.fields t
        (rows t.keys (header.length - keyLines - 1) (records.drop keyLines)) := by
  obtain ⟨records, stop⟩ := records
  obtain ⟨states, reads, rfl⟩ := gives
  unfold ofTable at melted
  obtain ⟨⟨keys, rest⟩, read, melted⟩ := bind_eq_ok_iff.mp melted
  have enough := le_length_of_readKeys reads read
  obtain ⟨rest', read', left⟩ := readKeys_of_reads reads keyLines fieldsToSkip 0 enough
  cases read.symm.trans read'
  simp only at melted
  split at melted
  · cases melted
  · rename_i places
    obtain ⟨inner, count, beyond, regular, keys⟩ : t.inner = rest ∧ t.keyColumns = countKeys t.keys ∧
        t.keyColumns ≤ t.position ∧ t.regularCount = header.length - keyLines - 1 ∧
        t.keys = ((states.map RecordSource.fields).take keyLines).map (keysOf fieldsToSkip) := by
      cases melted
      exact ⟨rfl, rfl, Nat.le_refl _, rfl, rfl⟩
    refine ⟨by simpa using enough, by omega, keys, ?_⟩
    have given := gives_belowKeys count beyond (inner ▸ left)
    rw [regular, List.map_drop] at given
    exact given

theorem exists_ofTable {inner : σ} {records : Outcome (List (Option String))}
    (gives : RecordSource.Gives RecordSource.fields inner records) {keyLines : Nat}
    (fieldsToSkip : Nat) {header : List String} (enough : keyLines ≤ records.1.length)
    (places : keyLines < header.length) :
    ∃ t, ofTable inner keyLines fieldsToSkip (some header) = .ok t := by
  obtain ⟨records, stop⟩ := records
  obtain ⟨states, reads, rfl⟩ := gives
  obtain ⟨rest, read, _⟩ :=
    readKeys_of_reads reads keyLines fieldsToSkip 0 (by simpa using enough)
  unfold ofTable
  rw [read]
  simp only [bind, Except.bind, if_neg (Nat.not_lt_of_le places)]
  exact ⟨_, rfl⟩

end PlainTables.MeltedTable
