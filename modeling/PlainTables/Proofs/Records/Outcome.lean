import PlainTables.Proofs.Computation
import PlainTables.Records

/-!
# Reading tables

A source that is read record by record passes through one state for each record, until there are no
more records or an error stops it. What reading gives is the list of the records of these states and perhaps an
error after them. One reading is followed by another only if no error has stopped it.

A source may also be called in any other order, for its next record and to close it, and can keep a log of the
calls.
-/

namespace PlainTables.RecordSource

variable {σ : Type} [RecordSource σ]

/-- Reading on from a source passes through these states, one for each record, and is stopped by the
error, if there is one. -/
inductive Reads : σ → List σ → Option QueryError → Prop
  | ended {s} : (next s).1 = .ok false → Reads s [] none
  | failed {s e} : (next s).1 = .error e → Reads s [] (some e)
  | record {s states stop} : (next s).1 = .ok true → Reads (next s).2 states stop →
      Reads s ((next s).2 :: states) stop

theorem Reads.unique {s : σ} {states states' : List σ} {stop stop' : Option QueryError}
    (reads : Reads s states stop) (reads' : Reads s states' stop') :
    states = states' ∧ stop = stop' := by
  induction reads generalizing states' stop' with
  | ended atEnd => cases reads' <;> simp_all
  | failed atError => cases reads' <;> simp_all
  | record atRecord _ ih =>
    cases reads' with
    | ended atEnd => simp [atRecord] at atEnd
    | failed atError => simp [atRecord] at atError
    | record _ rest =>
      obtain ⟨rfl, rfl⟩ := ih rest
      exact ⟨rfl, rfl⟩

theorem exists_reads (s : σ) : ∃ states stop, Reads s states stop := by
  induction hn : remaining s using Nat.strongRecOn generalizing s with
  | _ n ih =>
    match result : (next s).1 with
    | .ok false => exact ⟨[], none, .ended result⟩
    | .error e => exact ⟨[], some e, .failed result⟩
    | .ok true =>
      have fewer : remaining (next s).2 < n := hn ▸ remaining_next s result
      obtain ⟨states, stop, rest⟩ := ih _ fewer _ rfl
      exact ⟨_, stop, .record result rest⟩

theorem Reads.inr {τ : Type} [RecordSource τ] {t : τ} {states : List τ} {stop : Option QueryError}
    (reads : Reads t states stop) : Reads (.inr t : σ ⊕ τ) (states.map .inr) stop := by
  induction reads with
  | ended atEnd => exact .ended atEnd
  | failed atError => exact .failed atError
  | @record t _ _ atRecord _ ih => exact .record (s := (.inr t : σ ⊕ τ)) atRecord ih

end PlainTables.RecordSource

namespace PlainTables

/-- The records that reading gives, and the error that stops it, if there is one. -/
abbrev Outcome (α : Type) := List α × Option QueryError

instance {α : Type} [DecidableEq α] : DecidableEq (Outcome α) :=
  inferInstanceAs (DecidableEq (List α × Option QueryError))

namespace Outcome

variable {α β : Type}

def followedBy : Outcome α → Outcome α → Outcome α
  | (records, some e), _ => (records, some e)
  | (records, none), (more, stop) => (records ++ more, stop)

def joined (outcomes : List (Outcome α)) : Outcome α :=
  outcomes.foldr followedBy ([], none)

def map (f : α → β) (outcome : Outcome α) : Outcome β :=
  (outcome.1.map f, outcome.2)

theorem cons_followedBy (record : α) (records : List α) (stop : Option QueryError)
    (next : Outcome α) :
    followedBy (record :: records, stop) next =
      (record :: (followedBy (records, stop) next).1, (followedBy (records, stop) next).2) := by
  cases stop <;> rfl

theorem followedBy_nil (outcome : Outcome α) : outcome.followedBy ([], none) = outcome := by
  obtain ⟨records, stop⟩ := outcome
  cases stop with
  | some e => rfl
  | none => exact Prod.ext (List.append_nil records) rfl

theorem map_followedBy (f : α → β) (first second : Outcome α) :
    (first.followedBy second).map f = (first.map f).followedBy (second.map f) := by
  obtain ⟨records, stop⟩ := first
  cases stop with
  | some e => rfl
  | none => exact Prod.ext (List.map_append) rfl

theorem map_joined (f : α → β) (outcomes : List (Outcome α)) :
    (joined outcomes).map f = joined (outcomes.map (map f)) := by
  induction outcomes with
  | nil => rfl
  | cons first others ih =>
    change (first.followedBy (joined others)).map f = _
    rw [map_followedBy, ih]
    rfl

theorem map_map {γ : Type} (f : α → β) (g : β → γ) (outcome : Outcome α) :
    (outcome.map f).map g = outcome.map (g ∘ f) :=
  Prod.ext List.map_map rfl

def drop (count : Nat) (outcome : Outcome α) : Outcome α :=
  (outcome.1.drop count, outcome.2)

theorem map_drop (f : α → β) (count : Nat) (outcome : Outcome α) :
    (outcome.drop count).map f = (outcome.map f).drop count :=
  Prod.ext List.map_drop rfl

theorem length_le_followedBy (first second : Outcome α) :
    first.1.length ≤ (first.followedBy second).1.length := by
  obtain ⟨records, stop⟩ := first
  cases stop with
  | some e => exact Nat.le_refl _
  | none => exact (List.sublist_append_left records second.1).length_le

theorem take_followedBy {count : Nat} {first : Outcome α} (enough : count ≤ first.1.length)
    (second : Outcome α) : (first.followedBy second).1.take count = first.1.take count := by
  obtain ⟨records, stop⟩ := first
  cases stop with
  | some e => rfl
  | none => exact List.take_append_of_le_length enough

theorem drop_followedBy {count : Nat} {first : Outcome α} (enough : count ≤ first.1.length)
    (second : Outcome α) :
    (first.followedBy second).drop count = (first.drop count).followedBy second := by
  obtain ⟨records, stop⟩ := first
  cases stop with
  | some e => rfl
  | none => exact Prod.ext (List.drop_append_of_le_length enough) rfl

def flatMap (f : α → List β) (outcome : Outcome α) : Outcome β :=
  (outcome.1.flatMap f, outcome.2)

theorem flatMap_map {γ : Type} (f : α → β) (g : β → List γ) (outcome : Outcome α) :
    (outcome.map f).flatMap g = outcome.flatMap fun record => g (f record) :=
  Prod.ext (List.flatMap_map f g outcome.1) rfl

theorem flatMap_followedBy (f : α → List β) (first second : Outcome α) :
    (first.followedBy second).flatMap f = (first.flatMap f).followedBy (second.flatMap f) := by
  obtain ⟨records, stop⟩ := first
  cases stop with
  | some e => rfl
  | none => exact Prod.ext List.flatMap_append rfl

end Outcome

/-- Reading the source to its end has this outcome, as far as it can be seen. -/
def RecordSource.Gives {σ α : Type} [RecordSource σ] (seen : σ → α) (s : σ) (outcome : Outcome α) :
    Prop :=
  ∃ states, Reads s states outcome.2 ∧ states.map seen = outcome.1

theorem RecordSource.Gives.unique {σ α : Type} [RecordSource σ] {seen : σ → α} {s : σ}
    {outcome outcome' : Outcome α} (gives : Gives seen s outcome) (gives' : Gives seen s outcome') :
    outcome = outcome' := by
  obtain ⟨states, reads, same⟩ := gives
  obtain ⟨states', reads', same'⟩ := gives'
  obtain ⟨rfl, stops⟩ := reads.unique reads'
  exact Prod.ext (same.symm.trans same') stops

def RecordSource.outcomeWithin {σ α : Type} [RecordSource σ] (seen : σ → α) :
    Nat → σ → Option (Outcome α)
  | 0, _ => none
  | fuel + 1, s =>
    match next s with
    | (.error e, _) => some ([], some e)
    | (.ok false, _) => some ([], none)
    | (.ok true, s) =>
      (outcomeWithin seen fuel s).map fun (records, stop) => (seen s :: records, stop)

theorem RecordSource.gives_of_outcomeWithin {σ α : Type} [RecordSource σ] {seen : σ → α}
    {fuel : Nat} {s : σ} {outcome : Outcome α}
    (found : outcomeWithin seen fuel s = some outcome) : Gives seen s outcome := by
  induction fuel generalizing s outcome with
  | zero => cases found
  | succ fuel ih =>
    rw [outcomeWithin] at found
    rcases step : next s with ⟨e | (_ | _), s'⟩
    · rw [step] at found
      cases found
      exact ⟨[], .failed (by rw [step]), rfl⟩
    · rw [step] at found
      cases found
      exact ⟨[], .ended (by rw [step]), rfl⟩
    · rw [step] at found
      obtain ⟨rest, inRest, rfl⟩ := Option.map_eq_some_iff.mp found
      obtain ⟨states, reads, same⟩ := ih inRest
      refine ⟨s' :: states, ?_, congrArg _ same⟩
      have whole := Reads.record (congrArg Prod.fst step) (by rw [step]; exact reads)
      rwa [step] at whole

/-- A table that is opened and then read, as it is or as part of another one, gives what running both shows. -/
theorem RecordSource.exists_gives_of_map {σ τ α β ε : Type} [RecordSource τ] {seen : τ → α} {view : σ → β}
    {whole : σ → τ} {fuel : Nat} {opened : Except ε σ} {b : β} {outcome : Outcome α}
    (read : opened.map (fun t => (view t, outcomeWithin seen fuel (whole t))) = .ok (b, some outcome)) :
    ∃ t, opened = .ok t ∧ view t = b ∧ Gives seen (whole t) outcome := by
  obtain ⟨t, same, pair⟩ := exists_of_map_eq_ok read
  obtain ⟨viewed, found⟩ := Prod.mk.inj pair
  exact ⟨t, same, viewed, gives_of_outcomeWithin found⟩

theorem RecordSource.Gives.map {σ α β : Type} [RecordSource σ] {seen : σ → α} {s : σ}
    {outcome : Outcome α} (gives : Gives seen s outcome) (f : α → β) :
    Gives (f ∘ seen) s (outcome.map f) := by
  obtain ⟨states, reads, same⟩ := gives
  refine ⟨states, reads, ?_⟩
  rw [← List.map_map, same]
  rfl

theorem RecordSource.Gives.congr {σ α : Type} [RecordSource σ] {seen : σ → α} {outcome : Outcome α}
    {s s' : σ} (gives : Gives seen s' outcome) (result : (next s).1 = (next s').1)
    (after : (next s).1 = .ok true → (next s).2 = (next s').2) : Gives seen s outcome := by
  obtain ⟨records, stop⟩ := outcome
  obtain ⟨states, reads, same⟩ := gives
  cases reads with
  | ended atEnd => exact ⟨_, .ended (result.trans atEnd), same⟩
  | failed atError => exact ⟨_, .failed (result.trans atError), same⟩
  | record atRecord rest =>
    have here := result.trans atRecord
    rw [← after here] at rest same
    exact ⟨_, .record here rest, same⟩

theorem RecordSource.Gives.inr {σ τ α : Type} [RecordSource σ] [RecordSource τ]
    {seen : σ ⊕ τ → α} {t : τ} {outcome : Outcome α}
    (gives : Gives (fun t => seen (.inr t)) t outcome) : Gives seen (.inr t : σ ⊕ τ) outcome := by
  obtain ⟨states, reads, same⟩ := gives
  exact ⟨_, reads.inr, by rw [List.map_map, ← same]; rfl⟩

inductive SourceCall where
  | next
  | close
deriving DecidableEq

namespace RecordSource

variable {σ : Type} [RecordSource σ]

/-- Makes calls one after the other. The answers are those of the calls for the next record. -/
def perform : List SourceCall → σ → List (Except QueryError Bool) × σ
  | [], s => ([], s)
  | .next :: calls, s =>
    let (answer, s) := next s
    let (answers, s) := perform calls s
    (answer :: answers, s)
  | .close :: calls, s => perform calls (close s)

theorem perform_keeps {good : σ → Prop} (nexts : ∀ s, good s → good (next s).2)
    (closes : ∀ s, good s → good (close s)) {s : σ} (start : good s) (calls : List SourceCall) :
    good (perform calls s).2 := by
  induction calls generalizing s with
  | nil => exact start
  | cons call calls ih =>
    cases call with
    | next => exact ih (nexts s start)
    | close => exact ih (closes s start)

end RecordSource

/-- A table with the calls that have been made to it. -/
structure Logged (σ : Type) where
  inner : σ
  calls : List SourceCall := []

namespace Logged

variable {σ : Type} [RecordSource σ]

def ofSource (s : σ) : Logged σ where
  inner := s

instance : RecordSource (Logged σ) where
  columns s := RecordSource.columns s.inner
  next s := ((RecordSource.next s.inner).1, ⟨(RecordSource.next s.inner).2, s.calls ++ [.next]⟩)
  field s := RecordSource.field s.inner
  fieldCount s := RecordSource.fieldCount s.inner
  fileValues s := RecordSource.fileValues s.inner
  close s := ⟨RecordSource.close s.inner, s.calls ++ [.close]⟩
  remaining s := RecordSource.remaining s.inner
  remaining_next s := RecordSource.remaining_next s.inner

def Open (s : Logged σ) : Prop :=
  ∃ n, s.calls = List.replicate n .next

def Done (s : Logged σ) : Prop :=
  ∃ n, s.calls = List.replicate n .next ++ [.close]

omit [RecordSource σ] in
theorem open_ofSource (s : σ) : (ofSource s).Open :=
  ⟨0, rfl⟩

theorem Open.next {s : Logged σ} (reading : s.Open) : (RecordSource.next s).2.Open := by
  obtain ⟨n, calls⟩ := reading
  refine ⟨n + 1, ?_⟩
  rw [List.replicate_succ', ← calls]
  rfl

theorem Open.close {s : Logged σ} (reading : s.Open) : (RecordSource.close s).Done := by
  obtain ⟨n, calls⟩ := reading
  refine ⟨n, ?_⟩
  rw [← calls]
  rfl

end Logged

end PlainTables
