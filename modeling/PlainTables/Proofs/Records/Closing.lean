import PlainTables.Connection
import PlainTables.Proofs.Records.Melted
import PlainTables.Proofs.Records.Outcome
import PlainTables.Records.Shape

/-!
# Closed tables

A closed table gives no more records, except for what a melted table has left of the record that it
is melting.
-/

namespace PlainTables

namespace RecordSource

variable {σ : Type} [RecordSource σ]

/-- So many answers that there is a record, and that there is none from then on. -/
def countdown (records calls : Nat) : List (Except QueryError Bool) :=
  (List.range calls).map fun i => .ok (decide (i < records))

theorem countdown_succ (records calls : Nat) :
    countdown records (calls + 1) = .ok (decide (0 < records)) :: countdown (records - 1) calls := by
  rw [countdown, List.range_succ_eq_map, List.map_cons, List.map_map]
  refine congrArg _ (List.map_congr_left fun i _ => ?_)
  have same : i + 1 < records ↔ i < records - 1 := by omega
  simp only [Function.comp_apply, same]

theorem countdown_zero (calls : Nat) : countdown 0 calls = List.replicate calls (.ok false) := by
  rw [countdown, ← List.length_range (n := calls), List.map_eq_replicate_iff.mpr]
  · rw [List.length_range]
  · simp

/-- The table gives so many records more, and closing it changes nothing. -/
def Closed (records : Nat) (s : σ) : Prop :=
  ∀ calls : List SourceCall,
    (perform calls s).1 = countdown records (calls.count .next) ∧
      close (perform calls s).2 = (perform calls s).2

theorem Closed.close_eq {records : Nat} {s : σ} (closed : Closed records s) : close s = s :=
  (closed []).2

theorem Closed.next_eq {records : Nat} {s : σ} (closed : Closed records s) :
    (next s).1 = .ok (decide (0 < records)) := by
  have first := (closed [.next]).1
  rw [List.count_cons_self, countdown_succ] at first
  exact (List.cons.inj first).1

theorem Closed.next {records : Nat} {s : σ} (closed : Closed records s) :
    Closed (records - 1) (next s).2 := by
  intro calls
  obtain ⟨answers, still⟩ := closed (.next :: calls)
  rw [List.count_cons_self, countdown_succ] at answers
  exact ⟨(List.cons.inj answers).2, still⟩

theorem closed_of_invariant (holds : Nat → σ → Prop)
    (closes : ∀ records s, holds records s → close s = s)
    (answers : ∀ records s, holds records s → (next s).1 = .ok (decide (0 < records)))
    (keeps : ∀ records s, holds records s → holds (records - 1) (next s).2)
    {records : Nat} {s : σ} (now : holds records s) : Closed records s := by
  intro calls
  induction calls generalizing records s with
  | nil => exact ⟨rfl, closes records s now⟩
  | cons call calls ih =>
    cases call with
    | close =>
      have rest := ih now
      rw [List.count_cons_of_ne (by decide)]
      simp only [perform, closes records s now]
      exact rest
    | next =>
      have rest := ih (keeps records s now)
      rw [List.count_cons_self, countdown_succ, ← answers records s now]
      exact ⟨congrArg _ rest.1, rest.2⟩

variable {τ : Type} [RecordSource τ]

theorem closed_inl {records : Nat} {s : σ} (closed : Closed records s) :
    Closed records (.inl s : σ ⊕ τ) := by
  refine closed_of_invariant (fun records t => ∃ s, t = .inl s ∧ Closed records s) ?_ ?_ ?_
    ⟨s, rfl, closed⟩
  · rintro records _ ⟨s, rfl, closed⟩
    exact congrArg Sum.inl closed.close_eq
  · rintro records _ ⟨s, rfl, closed⟩
    exact closed.next_eq
  · rintro records _ ⟨s, rfl, closed⟩
    exact ⟨_, rfl, closed.next⟩

theorem closed_inr {records : Nat} {t : τ} (closed : Closed records t) :
    Closed records (.inr t : σ ⊕ τ) := by
  refine closed_of_invariant (fun records s => ∃ t, s = .inr t ∧ Closed records t) ?_ ?_ ?_
    ⟨t, rfl, closed⟩
  · rintro records _ ⟨t, rfl, closed⟩
    exact congrArg Sum.inr closed.close_eq
  · rintro records _ ⟨t, rfl, closed⟩
    exact closed.next_eq
  · rintro records _ ⟨t, rfl, closed⟩
    exact ⟨_, rfl, closed.next⟩

end RecordSource

open RecordSource (Closed closed_of_invariant)

theorem MemoryTable.closed {t : MemoryTable} (noRows : t.rows = []) : Closed 0 t := by
  refine closed_of_invariant (fun records t => records = 0 ∧ t.rows = []) ?_ ?_ ?_ ⟨rfl, noRows⟩
  · rintro _ ⟨columns, rows, current⟩ ⟨rfl, rfl⟩
    rfl
  · rintro _ ⟨columns, rows, current⟩ ⟨rfl, rfl⟩
    rfl
  · rintro _ ⟨columns, rows, current⟩ ⟨rfl, rfl⟩
    exact ⟨rfl, rfl⟩

theorem TextTable.closed {ρ : Type} [LineSource ρ] {t : TextTable ρ} (exhausted : t.exhausted = true)
    (noLines : LineSource.close t.lines = t.lines) : Closed 0 t := by
  have stays (t : TextTable ρ) (exhausted : t.exhausted = true) : t.next = (.ok false, t) :=
    if_pos exhausted
  refine closed_of_invariant (fun records t => records = 0 ∧ t.exhausted = true ∧
    LineSource.close t.lines = t.lines) ?_ ?_ ?_ ⟨rfl, exhausted, noLines⟩
  · rintro _ ⟨lines, layout, columns, fields, pending, preamble, exhausted⟩ ⟨rfl, ended, noLines⟩
    simp only at ended noLines
    subst ended
    change TextTable.mk .. = TextTable.mk ..
    simp only [noLines]
  · rintro _ t ⟨rfl, ended, -⟩
    exact congrArg Prod.fst (stays t ended)
  · rintro _ t ⟨rfl, ended, noLines⟩
    have same : (RecordSource.next t).2 = t := congrArg Prod.snd (stays t ended)
    rw [same]
    exact ⟨rfl, ended, noLines⟩

section

variable {σ : Type} [RecordSource σ]

theorem TaggedTable.closed {records : Nat} {t : TaggedTable σ} (closed : Closed records t.inner) :
    Closed records t := by
  refine closed_of_invariant (fun records (t : TaggedTable σ) => Closed records t.inner) ?_ ?_ ?_
    closed
  · intro records t closed
    have same := closed.close_eq
    change { t with inner := RecordSource.close t.inner } = t
    rw [same]
  · intro records t closed
    exact t.result_next.trans closed.next_eq
  · intro records t closed
    change Closed _ t.next.2.inner
    rw [inner_next]
    exact closed.next

namespace MeltedTable

/-- The records that a melted table still gives if the table in it gives so many. -/
def stillMelted (t : MeltedTable σ) (records : Nat) : Nat :=
  records * t.keyColumns + (t.keyColumns - t.position)

theorem next_at_end {records : Nat} (t : MeltedTable σ) (someKeys : 0 < t.keyColumns)
    (ended : t.keyColumns ≤ t.position) (closed : Closed records t.inner) :
    (RecordSource.next t).1 = .ok (decide (0 < records)) ∧
      Closed (records - 1) (RecordSource.next t).2.inner ∧
      (RecordSource.next t).2.keyColumns = t.keyColumns ∧
      (RecordSource.next t).2.position = if 0 < records then 1 else t.position := by
  have answer := closed.next_eq
  have later := closed.next
  simp only [RecordSource.next, next, loadData, if_neg (Nat.ne_of_gt someKeys), if_pos ended]
    at answer later ⊢
  generalize RecordSource.next t.inner = step at answer later ⊢
  obtain ⟨result, inner⟩ := step
  simp only at answer later
  subst answer
  by_cases more : 0 < records
  · simp only [more, decide_true, if_true]
    exact ⟨trivial, later, trivial, trivial⟩
  · simp only [more, decide_false, if_false]
    exact ⟨trivial, later, trivial, trivial⟩

theorem closed {records : Nat} {t : MeltedTable σ} (inside : Closed records t.inner) :
    Closed (t.stillMelted records) t := by
  refine closed_of_invariant (fun n (t : MeltedTable σ) =>
    ∃ records, Closed records t.inner ∧ n = t.stillMelted records) ?_ ?_ ?_ ⟨records, inside, rfl⟩
  · rintro _ t ⟨records, inside, rfl⟩
    have same := inside.close_eq
    change { t with inner := RecordSource.close t.inner } = t
    rw [same]
  · rintro _ t ⟨records, inside, rfl⟩
    rcases Nat.eq_zero_or_pos t.keyColumns with noKeys | someKeys
    · rw [next_of_noKeys noKeys]
      simp [stillMelted, noKeys]
    · by_cases within : t.position < t.keyColumns
      · have more : 0 < t.stillMelted records := by
          rw [stillMelted]
          omega
        rw [next_of_position within, decide_eq_true more]
      · have ended := Nat.le_of_not_lt within
        have same : 0 < t.stillMelted records ↔ 0 < records := by
          rw [stillMelted, Nat.sub_eq_zero_of_le ended, Nat.add_zero]
          exact ⟨Nat.pos_of_mul_pos_right, fun more => Nat.mul_pos more someKeys⟩
        simp only [(next_at_end t someKeys ended inside).1, same]
  · rintro _ t ⟨records, inside, rfl⟩
    change ∃ records', Closed records' (RecordSource.next t).2.inner ∧
      _ = (RecordSource.next t).2.stillMelted records'
    rcases Nat.eq_zero_or_pos t.keyColumns with noKeys | someKeys
    · rw [next_of_noKeys noKeys]
      refine ⟨records, inside, ?_⟩
      simp [stillMelted, noKeys]
    · by_cases within : t.position < t.keyColumns
      · rw [next_of_position within]
        refine ⟨records, inside, ?_⟩
        simp only [stillMelted]
        omega
      · have ended := Nat.le_of_not_lt within
        obtain ⟨-, later, keys, position⟩ := next_at_end t someKeys ended inside
        refine ⟨records - 1, later, ?_⟩
        rw [stillMelted, stillMelted, keys, position, Nat.sub_eq_zero_of_le ended, Nat.add_zero]
        cases records with
        | zero => simp [Nat.sub_eq_zero_of_le ended]
        | succ records =>
          rw [if_pos (Nat.succ_pos _), Nat.add_sub_cancel, Nat.succ_mul]
          omega

end MeltedTable

end

namespace TableShape

def left : (shape : TableShape) → shape.Source → Nat
  | memory, _ => 0
  | text, _ => 0
  | fileSet, _ => 0
  | tagged inner, t => inner.left (TaggedTable.inner t)
  | melted inner, t => MeltedTable.stillMelted t (inner.left (MeltedTable.inner t))
  | choice first _, .inl s => first.left s
  | choice _ second, .inr s => second.left s

/-- No part of the table is in the middle of melting a record. -/
def BetweenRecords : (shape : TableShape) → shape.Source → Prop
  | memory, _ => True
  | text, _ => True
  | fileSet, _ => True
  | tagged inner, t => inner.BetweenRecords (TaggedTable.inner t)
  | melted inner, t =>
    inner.BetweenRecords (MeltedTable.inner t) ∧ MeltedTable.keyColumns t ≤ MeltedTable.position t
  | choice first _, .inl s => first.BetweenRecords s
  | choice _ second, .inr s => second.BetweenRecords s

theorem left_eq_zero (shape : TableShape) (s : shape.Source) (between : shape.BetweenRecords s) :
    shape.left s = 0 := by
  induction shape with
  | memory => rfl
  | text => rfl
  | fileSet => rfl
  | tagged inner ih => exact ih (TaggedTable.inner s) between
  | melted inner ih =>
    obtain ⟨inside, ended⟩ := between
    have none := ih (MeltedTable.inner s) inside
    change inner.left (MeltedTable.inner s) * _ + (MeltedTable.keyColumns s - _) = 0
    rw [none, Nat.zero_mul, Nat.zero_add]
    exact Nat.sub_eq_zero_of_le ended
  | choice first second ih ih' =>
    cases s with
    | inl s => exact ih s between
    | inr s => exact ih' s between

theorem closed_close (shape : TableShape) (s : shape.Source) :
    Closed (shape.left s) (RecordSource.close s) := by
  induction shape with
  | memory => exact MemoryTable.closed rfl
  | text => exact TextTable.closed rfl rfl
  | fileSet => exact TextTable.closed rfl rfl
  | tagged inner ih =>
    exact TaggedTable.closed (ih (TaggedTable.inner s))
  | melted inner ih =>
    exact MeltedTable.closed (ih (MeltedTable.inner s))
  | choice first second ih ih' =>
    cases s with
    | inl s => exact RecordSource.closed_inl (ih s)
    | inr s => exact RecordSource.closed_inr (ih' s)

/-- Once a table has been closed it gives at most what is left of the records that its melted parts
are melting, and closing it again changes nothing. Without such a rest it gives nothing. -/
theorem ends_when_closed (shape : TableShape) (s : shape.Source) (calls : List SourceCall) :
    (RecordSource.perform calls (RecordSource.close s)).1 =
        RecordSource.countdown (shape.left s) (calls.count .next) ∧
      RecordSource.close (RecordSource.perform calls (RecordSource.close s)).2 =
        (RecordSource.perform calls (RecordSource.close s)).2 ∧
      (shape.BetweenRecords s →
        (RecordSource.perform calls (RecordSource.close s)).1 =
          List.replicate (calls.count .next) (.ok false)) := by
  obtain ⟨answers, still⟩ := shape.closed_close s calls
  refine ⟨answers, still, ?_⟩
  intro between
  rw [answers, shape.left_eq_zero s between, RecordSource.countdown_zero]

def twoKeys : MemoryTable where
  columns := []
  rows := [["k1", "k2"], ["a", "b"]]

theorem ends_when_closed_after_two_keys :
    ∃ t : (melted memory).Source, MeltedTable.ofTable twoKeys 1 0 (some ["K", "V"]) = .ok t ∧
      (melted memory).BetweenRecords (RecordSource.perform [.next, .next] t).2 ∧
      (RecordSource.perform [.close, .next]
        (RecordSource.close (RecordSource.perform [.next, .next] t).2)).1 = [.ok false] := by
  refine ⟨_, rfl, ⟨trivial, Nat.le_refl 2⟩, ?_⟩
  exact (ends_when_closed (melted memory) _ [.close, .next]).2.2 ⟨trivial, Nat.le_refl 2⟩

/-- A melted table that is closed after the first of two values gives the second one. -/
theorem melted_record_outlives_close :
    ∃ t : (melted memory).Source, MeltedTable.ofTable twoKeys 1 0 (some ["K", "V"]) = .ok t ∧
      (RecordSource.perform [.next, .close, .next] t).1 = [.ok true, .ok true] ∧
      RecordSource.fields (RecordSource.perform [.next, .close, .next] t).2 =
        [some "k2", some "b"] :=
  ⟨_, rfl, rfl, rfl⟩

/-- What a query runs over. -/
example : queried.Source = Table := rfl

end TableShape

end PlainTables
