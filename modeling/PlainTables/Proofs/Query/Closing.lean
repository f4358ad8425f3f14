import PlainTables.Proofs.Query.Position
import PlainTables.Proofs.Records.Outcome

/-!
# Closing the table of a query

A query reads its table until it has what it needs, closes it and leaves it alone.
-/

namespace PlainTables

/-- What is kept while a table is read, and what holds once it has been closed. -/
structure ReadsThenCloses {σ : Type} [RecordSource σ] (reading closed : σ → Prop) : Prop where
  next : ∀ s, reading s → reading (RecordSource.next s).2
  close : ∀ s, reading s → closed (RecordSource.close s)

theorem Logged.readsThenCloses {σ : Type} [RecordSource σ] :
    ReadsThenCloses (@Open σ) Done where
  next _ := Open.next
  close _ := Open.close

variable {σ : Type} [RecordSource σ] {reading closed : σ → Prop}
  (rule : ReadsThenCloses reading closed)

include rule

namespace Scan

theorem nextRowWithin_keeps (p : Plan) (fuel : Nat) {scan : Scan σ} (now : reading scan.source) :
    reading (scan.nextRowWithin p fuel).2.source := by
  induction fuel generalizing scan with
  | zero => exact now
  | succ fuel ih =>
    have later := rule.next scan.source now
    rw [nextRowWithin]
    generalize RecordSource.next scan.source = step at later ⊢
    obtain ⟨result, source⟩ := step
    rcases result with e | _ | _
    · exact later
    · exact later
    · simp only
      split
      · exact later
      · split
        · exact later
        · exact later
        · exact ih later

theorem nextRow_keeps (p : Plan) {scan : Scan σ} (now : reading scan.source) :
    reading (scan.nextRow p).2.source :=
  nextRowWithin_keeps rule p _ now

theorem collectWithin_keeps {β : Type} (p : Plan) (f : Row → Except QueryError β) (fuel : Nat)
    {scan : Scan σ} (now : reading scan.source) :
    reading (scan.collectWithin p f fuel).2.source := by
  induction fuel generalizing scan with
  | zero => exact now
  | succ fuel ih =>
    have later := nextRow_keeps rule p now
    rw [collectWithin]
    generalize scan.nextRow p = step at later ⊢
    obtain ⟨result, scan⟩ := step
    rcases result with e | _ | row
    · exact later
    · exact later
    · simp only
      cases f row with
      | error e => exact later
      | ok b =>
        have rest := ih later
        simp only
        generalize collectWithin p f fuel scan = step at rest ⊢
        obtain ⟨result, scan⟩ := step
        cases result <;> exact rest

theorem collect_keeps {β : Type} (p : Plan) (f : Row → Except QueryError β) (scan : Scan σ)
    (now : reading scan.source) : reading (scan.collect p f).2.source :=
  collectWithin_keeps rule p f _ now

end Scan

theorem Plan.result_keeps (p : Plan) {s : σ} (now : reading s) : reading (p.result s).2 := by
  have rows : reading (p.resultRows s).2 := by
    unfold resultRows
    split
    · have later := Scan.collect_keeps rule p (fun r => (p.groupKey r).map fun key => (key, r))
        ⟨s, none⟩ now
      split
      · rename_i found
        rwa [found] at later
      · rename_i found
        rwa [found] at later
    · exact Scan.collect_keeps rule p p.plainRow ⟨s, none⟩ now
  unfold result
  split
  · rename_i found
    rwa [found] at rows
  · rename_i found
    rwa [found] at rows

namespace ResultStream

/-- The table is read until the result is finished, and closed then. -/
def Keeps (reading closed : σ → Prop) (r : ResultStream σ) : Prop :=
  if r.finished then closed r.scan.source else reading r.scan.source

theorem pullWithin_keeps (fuel : Nat) {r : ResultStream σ} (now : reading r.scan.source) :
    reading (r.pullWithin fuel).2.scan.source ∧
      (r.pullWithin fuel).2.finished = r.finished := by
  induction fuel generalizing r with
  | zero => exact ⟨now, rfl⟩
  | succ fuel ih =>
    have later := Scan.nextRow_keeps rule r.plan now
    rw [pullWithin]
    split
    · exact ⟨now, rfl⟩
    · generalize r.scan.nextRow r.plan = step at later ⊢
      obtain ⟨result, scan⟩ := step
      rcases result with e | _ | row
      · exact ⟨later, rfl⟩
      · exact ⟨later, rfl⟩
      · simp only
        split
        · exact ⟨later, rfl⟩
        · split
          · exact ih (r := { r with scan }) later
          · split
            · exact ih (r := { r with scan, seen := _, toSkip := _ }) later
            · exact ⟨later, rfl⟩

theorem Keeps.finish {r : ResultStream σ} (keeps : r.Keeps reading closed) :
    r.finish.finished = true ∧ closed r.finish.scan.source := by
  unfold ResultStream.finish
  by_cases finished : r.finished = true
  · rw [Keeps, if_pos finished] at keeps
    rw [if_pos finished]
    exact ⟨finished, keeps⟩
  · rw [Keeps, if_neg finished] at keeps
    rw [if_neg finished]
    exact ⟨rfl, rule.close _ keeps⟩

theorem Keeps.of_finish {r : ResultStream σ} (keeps : r.Keeps reading closed) :
    r.finish.Keeps reading closed := by
  obtain ⟨finished, done⟩ := keeps.finish rule
  rwa [Keeps, if_pos finished]

theorem Keeps.advance {r : ResultStream σ} (keeps : r.Keeps reading closed) :
    r.advance.2.Keeps reading closed := by
  unfold ResultStream.advance
  by_cases finished : r.finished = true
  · rwa [if_pos finished]
  · rw [Keeps, if_neg finished] at keeps
    rw [if_neg finished]
    obtain ⟨later, same⟩ := pullWithin_keeps rule (RecordSource.remaining r.scan.source + 1) keeps
    change reading r.pull.2.scan.source at later
    change r.pull.2.finished = r.finished at same
    have still : r.pull.2.Keeps reading closed := by
      rwa [Keeps, same, if_neg finished]
    generalize r.pull = step at later same still ⊢
    obtain ⟨result, pulled⟩ := step
    rcases result with e | _ | values
    · exact still.of_finish rule
    · exact still.of_finish rule
    · exact still

end ResultStream

/-- What can be done with a cursor. The accessors leave it as it is. -/
inductive CursorCall where
  | move (m : Move)
  | fetchAll
  | access
  | close

namespace Cursor

def call (c : Cursor σ) : CursorCall → Cursor σ
  | .move m => (c.move m).2
  | .fetchAll => c.fetchAll.2
  | .access => c
  | .close => c.close

def calls (c : Cursor σ) (calls : List CursorCall) : Cursor σ :=
  calls.foldl call c

section

variable {good : Cursor σ → Prop} (nexts : ∀ c, good c → good c.next.2)
  (moves : ∀ c target, good c → good (c.moveTo target).2)

omit rule

include nexts in
theorem fetchWithin_keeps (fuel : Nat) {c : Cursor σ} (now : good c) : good (c.fetchWithin fuel).2 := by
  induction fuel generalizing c with
  | zero => exact now
  | succ fuel ih =>
    have later := nexts c now
    rw [Cursor.fetchWithin]
    generalize c.next = step at later ⊢
    obtain ⟨result, c⟩ := step
    rcases result with e | _ | _
    · exact later
    · exact later
    · exact ih later

include nexts in
theorem fetchAll_keeps {c : Cursor σ} (now : good c) : good c.fetchAll.2 := by
  have later : good c.fetch.2 := fetchWithin_keeps nexts _ now
  unfold Cursor.fetchAll
  split
  · rename_i found
    rwa [found] at later
  · rename_i found
    rwa [found] at later

include nexts moves in
theorem move_keeps (m : Move) {c : Cursor σ} (now : good c) : good (c.move m).2 := by
  cases m with
  | next => exact nexts c now
  | previous => exact moves c _ now
  | first => exact moves c _ now
  | last => exact moves c _ now
  | absolute n => exact moves c _ now
  | relative n => exact moves c _ now
  | beforeFirst =>
    simp only [Cursor.move, Cursor.beforeFirst]
    exact moves c _ now
  | afterLast =>
    simp only [Cursor.move, Cursor.afterLast]
    exact moves c _ now

include nexts moves in
theorem calls_keep (closes : ∀ c, good c → good c.close) {c : Cursor σ} (start : good c)
    (calls : List CursorCall) : good (c.calls calls) := by
  induction calls generalizing c with
  | nil => exact start
  | cons call calls ih =>
    cases call with
    | move m => exact ih (move_keeps nexts moves m start)
    | fetchAll => exact ih (fetchAll_keeps nexts start)
    | access => exact ih start
    | close => exact ih (closes c start)

end

/-- The table is read until the cursor has no more rows to read, and closed then, which closing the
cursor sees to. -/
def Keeps (reading closed : σ → Prop) (c : Cursor σ) : Prop :=
  match c.state with
  | .streaming stream =>
    stream.Keeps reading closed ∧ (c.closed = true → stream.finished = true)
  | .buffered _ _ source => closed source

theorem Keeps.next {c : Cursor σ} (keeps : c.Keeps reading closed) :
    c.next.2.Keeps reading closed := by
  unfold Cursor.next
  by_cases ended : c.closed = true
  · rwa [if_pos ended]
  · rw [if_neg ended]
    obtain ⟨columns, state, isClosed⟩ := c
    cases state with
    | streaming stream =>
      exact ⟨keeps.1.advance rule, fun isClosed => absurd isClosed ended⟩
    | buffered rows position source => exact keeps

omit [RecordSource σ] rule in
theorem Keeps.moveTo {c : Cursor σ} (keeps : c.Keeps reading closed) (target : Nat → Nat → Nat) :
    (c.moveTo target).2.Keeps reading closed := by
  obtain ⟨columns, state, isClosed⟩ := c
  cases state with
  | streaming stream => exact keeps
  | buffered rows position source =>
    simp only [Cursor.moveTo]
    split <;> exact keeps

theorem Keeps.close {c : Cursor σ} (keeps : c.Keeps reading closed) :
    c.close.Keeps reading closed ∧ closed c.close.source := by
  obtain ⟨columns, state, isClosed⟩ := c
  cases state with
  | streaming stream =>
    obtain ⟨streamKeeps, ends⟩ := keeps
    unfold Cursor.close
    by_cases ended : isClosed = true
    · have done := streamKeeps
      rw [ResultStream.Keeps, if_pos (ends ended)] at done
      rw [if_pos ended]
      exact ⟨⟨streamKeeps, ends⟩, done⟩
    · obtain ⟨finished, done⟩ := streamKeeps.finish rule
      rw [if_neg ended]
      exact ⟨⟨streamKeeps.of_finish rule, fun _ => finished⟩, done⟩
  | buffered rows position source =>
    unfold Cursor.close
    split <;> exact ⟨keeps, keeps⟩

theorem Keeps.calls {c : Cursor σ} (keeps : c.Keeps reading closed) (calls : List CursorCall) :
    (c.calls calls).Keeps reading closed :=
  calls_keep (fun _ keeps => keeps.next rule) (fun _ target keeps => keeps.moveTo target)
    (fun _ keeps => (keeps.close rule).1) keeps calls

end Cursor

namespace Statement

theorem run_keeps (s : Statement) {source : σ} (options : QueryOptions) (now : reading source) :
    match s.run source options with
    | .error failed => closed failed.source
    | .ok c => c.Keeps reading closed := by
  unfold Statement.run
  cases Plan.make s (RecordSource.columns source) options with
  | error e => exact rule.close source now
  | ok plan =>
    by_cases streamed : (plan.isStreamable && !options.scrollable) = true
    · simp only [streamed, if_true]
      exact ⟨now, nofun⟩
    · have later := Plan.result_keeps rule plan now
      simp only [if_neg streamed]
      generalize plan.result source = step at later ⊢
      obtain ⟨result, source⟩ := step
      cases result with
      | error e => exact rule.close source later
      | ok rows => exact rule.close source later

omit rule in
/-- A query closes its table once and does not read it afterwards: before it fails, or by the time
that its cursor is closed, whatever has been done with the cursor. -/
theorem run_closes_once (s : Statement) (source : σ) (options : QueryOptions) :
    (∀ failed, s.run (Logged.ofSource source) options = .error failed →
      ∃ n, failed.source.calls = List.replicate n .next ++ [.close]) ∧
    ∀ c, s.run (Logged.ofSource source) options = .ok c → ∀ calls : List CursorCall,
      ∃ n, (c.calls calls).close.source.calls = List.replicate n .next ++ [.close] := by
  have rule := @Logged.readsThenCloses σ _
  have kept := run_keeps rule s options (Logged.open_ofSource source)
  constructor
  · intro failed ran
    rw [ran] at kept
    exact kept
  · intro c ran calls
    rw [ran] at kept
    exact ((Cursor.Keeps.calls rule kept calls).close rule).2

omit rule [RecordSource σ] in
/-- The first name of a table is read; the limit is met then, and the table is closed. -/
theorem run_closes_once_at_limit :
    ∃ c, run { columns := [⟨.column none "name", none⟩], limit := some 1 }
        (Logged.ofSource (⟨["name"], [["a"], ["b"]], []⟩ : MemoryTable)) {} = .ok c ∧
      (∃ n, (c.calls [.move .next, .fetchAll, .close, .move .next]).close.source.calls =
        List.replicate n .next ++ [.close]) ∧
      (c.calls [.move .next, .fetchAll, .close, .move .next]).close.source.calls =
        [.next, .close] :=
  ⟨_, rfl, (run_closes_once { columns := [⟨.column none "name", none⟩], limit := some 1 }
    (⟨["name"], [["a"], ["b"]], []⟩ : MemoryTable) {}).2 _ rfl _, rfl⟩

end Statement

end PlainTables
