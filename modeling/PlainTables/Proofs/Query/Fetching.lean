import PlainTables.Proofs.Query.Closing
import PlainTables.Proofs.Query.Sorting

/-!
# The rows that a cursor has left

Going forward with a cursor ends. The rows that it goes over are those that fetching takes; each has a value
for every column, and each is the current row when the cursor stands on it.
-/

namespace PlainTables

variable {σ : Type} [RecordSource σ]

namespace Scan

theorem remaining_nextRow {p : Plan} {scan later : Scan σ} {row : Row}
    (found : scan.nextRow p = (.ok (some row), later)) :
    RecordSource.remaining later.source < RecordSource.remaining scan.source := by
  obtain ⟨rows, stop, gives⟩ := exists_gives p scan
  cases rows with
  | nil =>
    have last := nextRow_of_gives_nil gives
    rw [found] at last
    cases stop <;> cases last
  | cons row rows =>
    obtain ⟨later, next, -, fewer⟩ := nextRow_of_gives_cons gives
    cases next.symm.trans found
    exact fewer

end Scan

namespace ResultStream

theorem plan_pullWithin (fuel : Nat) (r : ResultStream σ) : (r.pullWithin fuel).2.plan = r.plan := by
  induction fuel generalizing r with
  | zero => rfl
  | succ fuel ih =>
    rw [pullWithin]
    split
    · rfl
    · rcases r.scan.nextRow r.plan with ⟨e | _ | row, scan⟩
      · rfl
      · rfl
      · simp only
        split
        · rfl
        · split
          · exact ih _
          · split
            · exact ih _
            · rfl

/-- A row that a stream produces is made of a row of its table, and uses up records. -/
theorem pullWithin_row {fuel : Nat} {r later : ResultStream σ} {values : List Value}
    (pulled : r.pullWithin fuel = (.ok (some values), later)) :
    (∃ row, r.plan.project row = .ok values) ∧
      RecordSource.remaining later.scan.source < RecordSource.remaining r.scan.source := by
  induction fuel generalizing r with
  | zero => cases pulled
  | succ fuel ih =>
    rw [pullWithin] at pulled
    split at pulled
    · cases pulled
    · split at pulled
      · cases pulled
      · cases pulled
      · next row scan found =>
        have fewer := Scan.remaining_nextRow found
        simp only at pulled
        split at pulled
        · cases pulled
        · next values' projects =>
          split at pulled
          · obtain ⟨made, less⟩ := ih pulled
            exact ⟨made, less.trans fewer⟩
          · split at pulled
            · obtain ⟨made, less⟩ := ih pulled
              exact ⟨made, less.trans fewer⟩
            · cases pulled
              exact ⟨⟨row, projects⟩, fewer⟩

/-- The stream has these columns, and its current row has a value for each of them. -/
def IsFull (columns : Columns) (r : ResultStream σ) : Prop :=
  r.plan.output = columns ∧ ∀ row, r.current = some row → row.length = columns.size

variable {columns : Columns} {r : ResultStream σ}

theorem IsFull.finish (full : r.IsFull columns) : r.finish.IsFull columns := by
  unfold ResultStream.finish
  split
  · exact ⟨full.1, nofun⟩
  · exact ⟨full.1, nofun⟩

theorem IsFull.advance (full : r.IsFull columns) : r.advance.2.IsFull columns := by
  unfold ResultStream.advance
  split
  · exact full
  · have samePlan : r.pull.2.plan = r.plan := plan_pullWithin _ r
    split
    · next values later pulled =>
      rw [pulled] at samePlan
      obtain ⟨⟨row, projects⟩, -⟩ := pullWithin_row pulled
      refine ⟨samePlan ▸ full.1, fun row current => ?_⟩
      cases current
      rw [← full.1]
      exact Plan.length_values projects
    all_goals
      next later pulled =>
        rw [pulled] at samePlan
        unfold ResultStream.finish
        split <;> exact ⟨samePlan ▸ full.1, nofun⟩

theorem advance_row {later : ResultStream σ} (advanced : r.advance = (.ok true, later)) :
    later.current.isSome = true ∧
      RecordSource.remaining later.scan.source < RecordSource.remaining r.scan.source := by
  unfold ResultStream.advance at advanced
  split at advanced
  · cases advanced
  · split at advanced
    · next pulled =>
      cases advanced
      exact ⟨rfl, (pullWithin_row pulled).2⟩
    · cases advanced
    · cases advanced

end ResultStream

namespace Cursor

/-- How many rows can be ahead of a cursor. -/
def ahead (c : Cursor σ) : Nat :=
  match c.state with
  | .streaming stream => RecordSource.remaining stream.scan.source
  | .buffered rows position _ => rows.length - position

variable {c : Cursor σ} {rows : List (List Value)} {stop : Option QueryError} {row : List Value}

theorem ahead_le_remaining : c.ahead ≤ c.remaining := by
  obtain ⟨columns, state, isClosed⟩ := c
  cases state with
  | streaming stream => exact Nat.le_refl _
  | buffered rows position source => exact Nat.sub_le _ _

theorem next_row (onRow : c.next.1 = .ok true) :
    (∃ row, c.next.2.currentRow = some row) ∧ c.next.2.ahead < c.ahead := by
  unfold next at onRow ⊢
  by_cases ended : c.closed = true
  · rw [if_pos ended] at onRow
    cases onRow
  · rw [if_neg ended] at onRow ⊢
    obtain ⟨columns, state, isClosed⟩ := c
    cases state with
    | streaming stream =>
      obtain ⟨current, fewer⟩ := ResultStream.advance_row (Prod.ext onRow rfl)
      refine ⟨?_, fewer⟩
      simp only [currentRow, if_neg ended]
      exact Option.isSome_iff_exists.mp current
    | buffered rows position source =>
      simp only [Except.ok.injEq, decide_eq_true_eq] at onRow
      have within : position < rows.length := by
        split at onRow <;> omega
      have counted : (if position ≤ rows.length then position + 1 else position) = position + 1 :=
        if_pos (Nat.le_of_lt within)
      simp only [counted, currentRow, if_neg ended, ahead]
      exact ⟨⟨rows[position], by simp [within]⟩, by omega⟩

/-- Going forward comes to the end of the rows or to an error. -/
theorem exists_delivers (c : Cursor σ) : ∃ rows stop, c.Delivers rows stop ∧ rows.length ≤ c.ahead := by
  induction hn : c.ahead using Nat.strongRecOn generalizing c with
  | _ n ih =>
    match result : c.next.1 with
    | .ok false => exact ⟨[], none, .ended result, Nat.zero_le _⟩
    | .error e => exact ⟨[], some e, .failed result, Nat.zero_le _⟩
    | .ok true =>
      obtain ⟨⟨row, current⟩, fewer⟩ := next_row result
      obtain ⟨rows, stop, rest, few⟩ := ih _ (hn ▸ fewer) c.next.2 rfl
      refine ⟨row :: rows, stop, .row result current rest, ?_⟩
      rw [List.length_cons]
      omega

theorem delivers_fetch (c : Cursor σ) : c.Delivers c.fetch.1.1 c.fetch.1.2 := by
  obtain ⟨rows, stop, delivers, few⟩ := exists_delivers c
  have fetched : c.fetch.1 = (rows, stop) :=
    fetchWithin_of_delivers delivers _ (Nat.lt_succ_of_le (few.trans ahead_le_remaining))
  rwa [fetched]

theorem delivers_of_fetchAll (fetched : c.fetchAll.1 = .ok rows) : c.Delivers rows none := by
  have delivers := delivers_fetch c
  unfold fetchAll at fetched
  split at fetched
  · next found =>
    rw [found] at delivers
    cases fetched
    exact delivers
  · cases fetched

def after (c : Cursor σ) : Nat → Cursor σ
  | 0 => c
  | n + 1 => c.next.2.after n

theorem Delivers.currentRow_after (delivers : c.Delivers rows stop) {i : Nat}
    (found : rows[i]? = some row) : (c.after (i + 1)).currentRow = some row := by
  induction delivers generalizing i with
  | ended => cases found
  | failed => cases found
  | row _ current _ ih =>
    cases i with
    | zero =>
      cases found
      exact current
    | succ i => exact ih found

theorem columns_next (c : Cursor σ) : c.next.2.columns = c.columns := by
  unfold next
  split
  · rfl
  · split <;> rfl

theorem columns_after (c : Cursor σ) (n : Nat) : (c.after n).columns = c.columns := by
  induction n generalizing c with
  | zero => rfl
  | succ n ih => exact (ih c.next.2).trans (columns_next c)

def IsFull (c : Cursor σ) : Prop :=
  match c.state with
  | .streaming stream => stream.IsFull c.columns
  | .buffered rows .. => ∀ row ∈ rows, row.length = c.columns.size

theorem IsFull.next (full : c.IsFull) : c.next.2.IsFull := by
  unfold Cursor.next
  split
  · exact full
  · obtain ⟨columns, state, isClosed⟩ := c
    cases state with
    | streaming stream => exact ResultStream.IsFull.advance full
    | buffered rows position source => exact full

omit [RecordSource σ] in
theorem IsFull.moveTo (full : c.IsFull) (target : Nat → Nat → Nat) : (c.moveTo target).2.IsFull := by
  obtain ⟨columns, state, isClosed⟩ := c
  cases state with
  | streaming stream => exact full
  | buffered rows position source =>
    simp only [Cursor.moveTo]
    split <;> exact full

theorem IsFull.close (full : c.IsFull) : c.close.IsFull := by
  unfold Cursor.close
  split
  · exact full
  · obtain ⟨columns, state, isClosed⟩ := c
    cases state with
    | streaming stream => exact ResultStream.IsFull.finish full
    | buffered rows position source => exact List.forall_mem_nil _

theorem IsFull.calls (full : c.IsFull) (calls : List CursorCall) : (c.calls calls).IsFull :=
  calls_keep (fun _ full => full.next) (fun _ target full => full.moveTo target)
    (fun _ full => full.close) full calls

omit [RecordSource σ] in
theorem IsFull.length_currentRow (full : c.IsFull) (current : c.currentRow = some row) :
    row.length = c.columns.size := by
  obtain ⟨columns, state, isClosed⟩ := c
  unfold currentRow at current
  split at current
  · cases current
  · cases state with
    | streaming stream => exact full.2 row current
    | buffered rows position source =>
      simp only at current
      split at current
      · cases current
      · exact full row (List.mem_of_getElem? current)

theorem IsFull.length_delivered (full : c.IsFull) (delivers : c.Delivers rows stop) :
    ∀ row ∈ rows, row.length = c.columns.size := by
  induction delivers with
  | ended => exact List.forall_mem_nil _
  | failed => exact List.forall_mem_nil _
  | @row c row rows stop _ current _ ih =>
    have sameColumns := columns_next c
    refine List.forall_mem_cons.mpr ⟨?_, ?_⟩
    · rw [← sameColumns]
      exact full.next.length_currentRow current
    · rw [← sameColumns]
      exact ih full.next

end Cursor

namespace Plan

variable {p : Plan} {rows : List ResultRow}

theorem mem_ordered {r : ResultRow} (mem : r ∈ p.ordered rows) : r ∈ rows := by
  have kept : r ∈ if p.statement.distinct then ResultRow.distinct [] rows else rows := by
    simp only [ordered] at mem
    split at mem
    · exact mem
    · exact List.mem_mergeSort.mp mem
  split at kept
  · exact (ResultRow.distinct_sublist [] rows).subset kept
  · exact kept

theorem exists_of_mem_arrange {values : List Value} (mem : values ∈ p.arrange rows) :
    ∃ r ∈ rows, r.values = values := by
  have inside : values ∈ (p.ordered rows).map ResultRow.values := by
    rw [arrange_eq_window] at mem
    unfold window at mem
    split at mem
    · exact List.mem_of_mem_drop (List.mem_of_mem_take mem)
    · exact List.mem_of_mem_drop mem
  obtain ⟨r, found, same⟩ := List.mem_map.mp inside
  exact ⟨r, mem_ordered found, same⟩

theorem length_plainRow {row : Row} {r : ResultRow} (computed : p.plainRow row = .ok r) :
    r.values.length = p.output.size := by
  obtain ⟨values, projects, rest⟩ := bind_eq_ok_iff.mp computed
  obtain ⟨keys, -, same⟩ := bind_eq_ok_iff.mp rest
  cases same
  exact length_values projects

theorem length_groupRow {g : Group} {r : ResultRow} (computed : p.groupRow g = .ok (some r)) :
    r.values.length = p.output.size := by
  obtain ⟨values, kept, groups, -, made⟩ := groupRow_eq_ok computed
  cases kept with
  | true =>
    obtain ⟨keys, -, same⟩ := made
    cases same
    exact length_values groups
  | false => cases made

/-- The rows of a whole result have a value for each of its columns. -/
theorem length_computed {selected : List Row} {stop : Option QueryError}
    (computed : p.computed selected stop = .ok rows) :
    ∀ r ∈ rows, r.values.length = p.output.size := by
  unfold Plan.computed at computed
  split at computed
  · obtain ⟨keyed, -, grouped⟩ := bind_eq_ok_iff.mp computed
    obtain ⟨made, each, rfl⟩ := exists_of_map_eq_ok grouped
    intro r mem
    obtain ⟨r', inside, rfl⟩ := List.mem_filterMap.mp mem
    exact forall_mem_of_forall₂ (mapM_eq_ok_iff.mp each)
      (S := fun made => ∀ r, made = some r → r.values.length = p.output.size)
      (fun g made computed r same => length_groupRow (same ▸ computed)) _ inside _ rfl
  · obtain ⟨each, -⟩ := Scan.outcome_eq_ok computed
    exact forall_mem_of_forall₂ (mapM_eq_ok_iff.mp each) fun _ _ => length_plainRow

end Plan

/-- The cursor of a query has a value for each of its columns in every row. -/
theorem Statement.isFull_of_run {s : Statement} {source : σ} {options : QueryOptions} {c : Cursor σ}
    (ran : s.run source options = .ok c) : c.IsFull := by
  cases valid : Plan.make s (RecordSource.columns source) options with
  | error e =>
    rw [run_of_make_eq_error valid] at ran
    cases ran
  | ok plan =>
    cases streamed : plan.isStreamable && !options.scrollable with
    | true =>
      rw [run_of_streamable valid streamed] at ran
      cases ran
      exact ⟨rfl, nofun⟩
    | false =>
      obtain ⟨rows, stop, gives⟩ := Scan.exists_gives plan ⟨source, none⟩
      obtain ⟨closed, runs⟩ := run_of_computed valid streamed gives
      rw [runs] at ran
      cases computed : plan.computed rows stop with
      | error e =>
        rw [computed] at ran
        cases ran
      | ok found =>
        rw [computed] at ran
        cases ran
        intro values mem
        obtain ⟨r, made, rfl⟩ := Plan.exists_of_mem_arrange mem
        exact Plan.length_computed computed r made

end PlainTables
