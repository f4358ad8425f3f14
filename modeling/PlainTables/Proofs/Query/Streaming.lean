import PlainTables.Proofs.Query.Whole
import PlainTables.Proofs.Query.Meaning
import PlainTables.Records.Memory

/-!
# Streamed and whole results

A result that is produced row by row keeps the rows seen and two counts; a whole result is made
distinct and cut at its ends after all rows have been read. Both are what the statement asks for.
-/

namespace PlainTables.Plan

/-- The rows that have not been seen, each at its first place; all rows if they need not differ. -/
def unseen : Option (List (List Value)) → List (List Value) → List (List Value)
  | none, rows => rows
  | some seen, rows => (rows.filter fun row => !seen.contains row).eraseDups

theorem unseen_nil (seen : Option (List (List Value))) : unseen seen [] = [] := by
  cases seen <;> rfl

theorem unseen_cons (seen : Option (List (List Value))) (row : List Value)
    (rows : List (List Value)) :
    unseen seen (row :: rows) =
      if seen.any (·.contains row) then unseen seen rows
      else row :: unseen (seen.map (row :: ·)) rows := by
  cases seen with
  | none => rfl
  | some seen =>
    have newer : ((rows.filter fun other => !seen.contains other).filter fun other => !other == row) =
        rows.filter fun other => !(row :: seen).contains other := by
      rw [List.filter_filter]
      apply List.filter_congr
      intro other _
      simp [Bool.not_or, Bool.beq_eq_decide_eq]
    by_cases known : seen.contains row
    · simp only [unseen, Option.any_some, known, if_true, Bool.not_true, Bool.false_eq_true,
        not_false_eq_true, List.filter_cons_of_neg]
    · simp only [unseen, Option.any_some, known, if_false, Bool.not_false, List.filter_cons_of_pos,
        List.eraseDups_cons, newer, Option.map_some, Bool.false_eq_true]

theorem unseen_of_distinct (p : Plan) (rows : List (List Value)) :
    unseen (if p.statement.distinct then some [] else none) rows =
      if p.statement.distinct then rows.eraseDups else rows := by
  split
  · have all : rows.filter (fun row => !([] : List (List Value)).contains row) = rows :=
      List.filter_eq_self.mpr fun _ _ => rfl
    simp only [unseen, all]
  · rfl

/-- What a stream makes of the rows of its table: the rows of the result, and the error that ends
them. Nothing is made of the rows after the limit. -/
def produced (p : Plan) (stop : Option QueryError) :
    Option (List (List Value)) → Nat → Option Nat → List Row →
      List (List Value) × Option QueryError
  | _, _, some 0, _ => ([], none)
  | _, _, _, [] => ([], stop)
  | seen, toSkip, toGive, row :: rows =>
    match p.project row with
    | .error e => ([], some e)
    | .ok values =>
      if seen.any (·.contains values) then produced p stop seen toSkip toGive rows
      else if 0 < toSkip then
        produced p stop (seen.map (values :: ·)) (toSkip - 1) toGive rows
      else
        let rest := produced p stop (seen.map (values :: ·)) toSkip (toGive.map (· - 1)) rows
        (values :: rest.1, rest.2)

variable {p : Plan} {stop : Option QueryError}

theorem produced_full (seen : Option (List (List Value))) (toSkip : Nat) (rows : List Row) :
    p.produced stop seen toSkip (some 0) rows = ([], none) := by
  cases rows <;> rfl

theorem produced_nil (seen : Option (List (List Value))) (toSkip : Nat) {toGive : Option Nat}
    (notFull : toGive ≠ some 0) : p.produced stop seen toSkip toGive [] = ([], stop) := by
  match toGive with
  | none => rfl
  | some 0 => contradiction
  | some (n + 1) => rfl

theorem produced_cons (seen : Option (List (List Value))) (toSkip : Nat) {toGive : Option Nat}
    (notFull : toGive ≠ some 0) (row : Row) (rows : List Row) :
    p.produced stop seen toSkip toGive (row :: rows) =
      match p.project row with
      | .error e => ([], some e)
      | .ok values =>
        if seen.any (·.contains values) then p.produced stop seen toSkip toGive rows
        else if 0 < toSkip then
          p.produced stop (seen.map (values :: ·)) (toSkip - 1) toGive rows
        else
          let rest := p.produced stop (seen.map (values :: ·)) toSkip (toGive.map (· - 1)) rows
          (values :: rest.1, rest.2) := by
  match toGive with
  | none => rfl
  | some 0 => contradiction
  | some (n + 1) => rfl

theorem window_nil (offset : Nat) (limit : Option Nat) :
    window offset limit ([] : List (List Value)) = [] := by
  cases limit <;> simp [window]

theorem projects_cons {row : Row} {rows : List Row} {projected : List (List Value)}
    (projects : (row :: rows).mapM p.project = .ok projected) :
    ∃ values later, p.project row = .ok values ∧ rows.mapM p.project = .ok later ∧
      projected = values :: later := by
  obtain ⟨values, later, first, rest, rfl⟩ :=
    List.forall₂_cons_left_iff.mp (mapM_eq_ok_iff.mp projects)
  exact ⟨values, later, first, mapM_eq_ok_iff.mpr rest, rfl⟩

theorem window_cons_skipped {offset : Nat} (skipping : 0 < offset) (limit : Option Nat)
    (row : List Value) (rows : List (List Value)) :
    window offset limit (row :: rows) = window (offset - 1) limit rows := by
  obtain ⟨offset, rfl⟩ := Nat.exists_eq_add_one_of_ne_zero (Nat.ne_zero_of_lt skipping)
  rfl

theorem window_cons_given {limit : Option Nat} (notFull : limit ≠ some 0) (row : List Value)
    (rows : List (List Value)) :
    window 0 limit (row :: rows) = row :: window 0 (limit.map (· - 1)) rows := by
  match limit with
  | none => rfl
  | some 0 => contradiction
  | some (n + 1) => rfl

/-- Of rows that can all be computed a stream produces those that are new, between its two counts. -/
theorem produced_of_projects (seen : Option (List (List Value))) (toSkip : Nat)
    (toGive : Option Nat) {rows : List Row} {projected : List (List Value)}
    (projects : rows.mapM p.project = .ok projected) :
    p.produced none seen toSkip toGive rows =
      (window toSkip toGive (unseen seen projected), none) := by
  induction rows generalizing seen toSkip toGive projected with
  | nil =>
    cases projects
    by_cases full : toGive = some 0
    · subst full
      rw [produced_full]
      simp [window]
    · rw [produced_nil seen toSkip full]
      exact congrArg (·, none) (by rw [List.reverse_nil, unseen_nil, window_nil])
  | cons row rows ih =>
    by_cases full : toGive = some 0
    · subst full
      rw [produced_full]
      simp [window]
    · obtain ⟨values, later, first, rest, rfl⟩ := projects_cons projects
      rw [produced_cons seen toSkip full, first, unseen_cons]
      by_cases known : seen.any (·.contains values)
      · simp only [known, if_true, ih _ _ _ rest]
      · by_cases skipping : 0 < toSkip
        · simp only [known, skipping, if_true, ih _ _ _ rest, window_cons_skipped,
            Bool.false_eq_true, if_false]
        · obtain rfl : toSkip = 0 := Nat.eq_zero_of_not_pos skipping
          simp only [known, skipping, ih _ _ _ rest, window_cons_given full, Bool.false_eq_true,
            if_false]

theorem fails_cons {row : Row} {rows : List Row} {values : List Value} {e : QueryError}
    (first : p.project row = .ok values)
    (rest : (rows.mapM p.project).bind (Scan.outcome stop) = .error e) :
    ((row :: rows).mapM p.project).bind (Scan.outcome stop) = .error e := by
  rw [List.mapM_cons, first]
  cases later : rows.mapM p.project with
  | error found =>
    rw [later] at rest
    exact rest
  | ok projected =>
    rw [later] at rest
    cases stop with
    | none => cases rest
    | some found => exact rest

/-- An error that ends a stream is the first one among its rows, or else the one after them. -/
theorem fails_of_produced {seen : Option (List (List Value))} {toSkip : Nat}
    {toGive : Option Nat} {rows : List Row} {e : QueryError}
    (failed : (p.produced stop seen toSkip toGive rows).2 = some e) :
    (rows.mapM p.project).bind (Scan.outcome stop) = .error e := by
  induction rows generalizing seen toSkip toGive with
  | nil =>
    by_cases full : toGive = some 0
    · subst full
      simp [produced_full] at failed
    · rw [produced_nil seen toSkip full] at failed
      cases failed
      rfl
  | cons row rows ih =>
    by_cases full : toGive = some 0
    · subst full
      simp [produced_full] at failed
    · rw [produced_cons seen toSkip full] at failed
      cases first : p.project row with
      | error found =>
        rw [first] at failed
        cases failed
        rw [List.mapM_cons, first]
        rfl
      | ok values =>
        apply fails_cons first
        simp only [first] at failed
        split at failed
        · exact ih failed
        · split at failed
          · exact ih failed
          · exact ih failed

theorem projects_of_produced {seen : Option (List (List Value))} {toSkip : Nat} {rows : List Row}
    (atEnd : (p.produced stop seen toSkip none rows).2 = none) :
    stop = none ∧ ∃ projected, rows.mapM p.project = .ok projected := by
  induction rows generalizing seen toSkip with
  | nil => exact ⟨atEnd, [], rfl⟩
  | cons row rows ih =>
    rw [produced_cons seen toSkip (by simp)] at atEnd
    cases first : p.project row with
    | error found => simp [first] at atEnd
    | ok values =>
      have rest : stop = none ∧ ∃ projected, rows.mapM p.project = .ok projected := by
        simp only [first] at atEnd
        split at atEnd
        · exact ih atEnd
        · split at atEnd
          · exact ih atEnd
          · exact ih atEnd
      obtain ⟨noStop, projected, projects⟩ := rest
      refine ⟨noStop, values :: projected, ?_⟩
      rw [List.mapM_cons, first, projects]
      rfl

end PlainTables.Plan

namespace PlainTables.ResultStream

variable {σ : Type} [RecordSource σ]

/-- With enough fuel the next row is the first of those that the stream produces, or else its end or
error. -/
theorem pullWithin_of_gives {r : ResultStream σ} {rows : List Row} {stop : Option QueryError}
    (gives : Scan.Gives r.plan r.scan rows stop) (fuel : Nat)
    (enough : RecordSource.remaining r.scan.source < fuel) :
    match r.plan.produced stop r.seen r.toSkip r.toGive rows with
    | ([], ending) => (r.pullWithin fuel).1 = Scan.outcome ending none
    | (values :: rest, ending) => ∃ later : ResultStream σ, ∃ rows',
        r.pullWithin fuel = (.ok (some values), later) ∧ later.plan = r.plan ∧
          later.finished = r.finished ∧ Scan.Gives later.plan later.scan rows' stop ∧
          later.plan.produced stop later.seen later.toSkip later.toGive rows' = (rest, ending) := by
  induction rows generalizing r fuel with
  | nil =>
    obtain ⟨fuel, rfl⟩ := Nat.exists_eq_add_one_of_ne_zero (Nat.ne_zero_of_lt enough)
    by_cases full : r.toGive = some 0
    · rw [full, Plan.produced_full]
      simp [pullWithin, full, Scan.outcome]
    · rw [Plan.produced_nil _ _ full]
      have last := Scan.nextRow_of_gives_nil gives
      simp only [pullWithin, full, if_false]
      generalize r.scan.nextRow r.plan = step at last
      obtain ⟨first, later⟩ := step
      cases stop <;> cases last <;> rfl
  | cons row rows ih =>
    obtain ⟨fuel, rfl⟩ := Nat.exists_eq_add_one_of_ne_zero (Nat.ne_zero_of_lt enough)
    by_cases full : r.toGive = some 0
    · rw [full, Plan.produced_full]
      simp [pullWithin, full, Scan.outcome]
    · obtain ⟨scan, next, rest, fewer⟩ := Scan.nextRow_of_gives_cons gives
      rw [Plan.produced_cons _ _ full]
      simp only [pullWithin, full, if_false, next]
      cases first : r.plan.project row with
      | error e => simp [Scan.outcome]
      | ok values =>
        simp only
        by_cases known : r.seen.any (·.contains values)
        · simp only [known, if_true]
          exact ih (r := { r with scan }) rest fuel (by simp only; omega)
        · simp only [known, Bool.false_eq_true, if_false]
          by_cases skipping : 0 < r.toSkip
          · simp only [skipping, if_true]
            exact ih (r := { r with
              scan, seen := r.seen.map (values :: ·), toSkip := r.toSkip - 1 }) rest fuel
              (by simp only; omega)
          · simp only [skipping, if_false]
            exact ⟨_, rows, rfl, rfl, rfl, rest, rfl⟩

end PlainTables.ResultStream

namespace PlainTables.Cursor

variable {σ : Type} [RecordSource σ]

/-- A cursor over a stream delivers what the stream produces of the rows of its table. -/
theorem delivers_produced {c : Cursor σ} {r : ResultStream σ} {rows : List Row}
    {stop : Option QueryError} {values : List (List Value)} {ending : Option QueryError}
    (isOpen : c.closed = false) (streams : c.state = .streaming r) (running : r.finished = false)
    (gives : Scan.Gives r.plan r.scan rows stop)
    (produces : r.plan.produced stop r.seen r.toSkip r.toGive rows = (values, ending)) :
    Delivers c values ending := by
  induction values generalizing c r rows with
  | nil =>
    have pulled := ResultStream.pullWithin_of_gives gives _ (Nat.lt_succ_self _)
    rw [produces] at pulled
    have last : r.pull.1 = Scan.outcome ending none := pulled
    have advanced : c.next.1 = Scan.outcome ending false := by
      simp only [next, isOpen, streams, ResultStream.advance, running, Bool.false_eq_true, if_false]
      generalize r.pull = step at last
      obtain ⟨first, later⟩ := step
      cases ending <;> cases last <;> rfl
    cases ending with
    | none => exact .ended advanced
    | some e => exact .failed advanced
  | cons row rest ih =>
    have pulled := ResultStream.pullWithin_of_gives gives _ (Nat.lt_succ_self _)
    rw [produces] at pulled
    obtain ⟨later, rows', pull, samePlan, sameEnd, gives', produces'⟩ := pulled
    have advanced : c.next =
        (.ok true, { c with state := .streaming { later with current := some row } }) := by
      have pull : r.pull = (.ok (some row), later) := pull
      simp only [next, isOpen, streams, ResultStream.advance, running, pull, Bool.false_eq_true,
        if_false]
    refine .row (by rw [advanced]) ?_ ?_
    · simp [advanced, currentRow, isOpen]
    · rw [advanced]
      exact ih (r := { later with current := some row }) isOpen rfl (sameEnd.trans running)
        gives' produces'

end PlainTables.Cursor

namespace PlainTables.Plan

variable {σ : Type} [RecordSource σ]

def scrolled (p : Plan) (scrollable : Bool) : Plan :=
  { p with options := { p.options with scrollable } }

/-- Whether a result is to be scrolled makes no difference to the rows that it is made of. -/
theorem gives_scrolled {p : Plan} {scrollable : Bool} {scan : Scan σ} {rows : List Row}
    {stop : Option QueryError} (gives : Scan.Gives p scan rows stop) :
    Scan.Gives (p.scrolled scrollable) scan rows stop :=
  gives.transfer (p := p) (q := p.scrolled scrollable) (fun _ => rfl) (fun _ _ => rfl) fun _ => rfl

theorem make_scrolled {s : Statement} {names : List String} {options : QueryOptions} {p : Plan}
    (valid : Plan.make s names options = .ok p) (scrollable : Bool) :
    Plan.make s names { options with scrollable } = .ok (p.scrolled scrollable) := by
  obtain ⟨rfl, checked⟩ := make_eq_ok_iff.mp valid
  exact make_eq_ok_iff.mpr ⟨rfl, checked⟩

theorem values_distinct (seen : List (List Value)) (rows : List ResultRow) :
    (ResultRow.distinct seen rows).map ResultRow.values =
      unseen (some seen) (rows.map ResultRow.values) := by
  induction rows generalizing seen with
  | nil => rfl
  | cons row rows ih =>
    rw [List.map_cons, unseen_cons, ResultRow.distinct]
    by_cases known : seen.contains row.values
    · simp only [known, if_true, Option.any_some, ih]
    · simp only [known, Bool.false_eq_true, if_false, Option.any_some, List.map_cons, ih,
        Option.map_some]

theorem map_window {α β : Type} (f : α → β) (offset : Nat) (limit : Option Nat) (rows : List α) :
    (window offset limit rows).map f = window offset limit (rows.map f) := by
  cases limit <;> simp [window]

def ordered (p : Plan) (rows : List ResultRow) : List ResultRow :=
  let rows := if p.statement.distinct then ResultRow.distinct [] rows else rows
  if p.statement.orderBy.isEmpty then rows
  else rows.mergeSort fun a b => ResultRow.compare p.statement.orderBy a.sortKeys b.sortKeys ≠ .gt

theorem arrange_eq_window (p : Plan) (rows : List ResultRow) :
    p.arrange rows = window p.offset p.limit ((p.ordered rows).map ResultRow.values) := by
  rw [← map_window]
  unfold arrange window
  cases p.limit <;> rfl

theorem arrange_of_unordered {p : Plan} (unordered : p.statement.orderBy = [])
    (rows : List ResultRow) :
    p.arrange rows = p.kept (rows.map ResultRow.values) := by
  have unsorted : p.ordered rows =
      if p.statement.distinct then ResultRow.distinct [] rows else rows := by
    rw [ordered, unordered]
    rfl
  rw [arrange_eq_window, unsorted, kept]
  by_cases distinct : p.statement.distinct
  · have erased := unseen_of_distinct p (rows.map ResultRow.values)
    simp only [distinct, if_true] at erased ⊢
    rw [values_distinct, erased]
  · simp only [distinct, Bool.false_eq_true, if_false]

theorem map_values (rows : List (List Value)) :
    (rows.map fun values => (⟨values, []⟩ : ResultRow)).map ResultRow.values = rows := by
  rw [List.map_map]
  exact List.map_id _

theorem plainRow_eq {p : Plan} (unordered : p.statement.orderBy = []) (row : Row) :
    p.plainRow row = (p.project row).map fun values => ⟨values, []⟩ := by
  simp only [plainRow, sortKeys, unordered, List.mapM_nil]
  cases p.project row <;> rfl

theorem computed_of_plain {p : Plan} (ungrouped : p.statement.isGrouped = false)
    (unordered : p.statement.orderBy = []) (rows : List Row) (stop : Option QueryError) :
    p.computed rows stop = ((rows.mapM p.project).bind (Scan.outcome stop)).map
      (·.map fun values => ⟨values, []⟩) := by
  rw [computed, ungrouped, if_neg Bool.false_ne_true, funext (plainRow_eq unordered), mapM_map]
  cases rows.mapM p.project with
  | error e => rfl
  | ok projected => cases stop <;> rfl

end PlainTables.Plan

namespace PlainTables.Statement

variable {σ : Type} [RecordSource σ]

theorem run_of_streamable {s : Statement} {source : σ} {options : QueryOptions} {p : Plan}
    (valid : Plan.make s (RecordSource.columns source) options = .ok p)
    (streamed : (p.isStreamable && !options.scrollable) = true) :
    s.run source options =
      .ok { columns := p.output, state := .streaming (.start p source) } := by
  rw [run, valid]
  simp only [streamed, if_true]

theorem run_streamed {s : Statement} {source : σ} {options : QueryOptions} {p : Plan}
    (valid : Plan.make s (RecordSource.columns source) options = .ok p)
    (streamable : p.isStreamable = true) :
    s.run source { options with scrollable := false } = .ok
      { columns := p.output, state := .streaming (.start (p.scrolled false) source) } := by
  have streamed : ((p.scrolled false).isStreamable && !false) = true := by
    rw [show (p.scrolled false).isStreamable = true from streamable]
    rfl
  exact run_of_streamable (Plan.make_scrolled valid false) streamed

theorem run_whole {s : Statement} {source : σ} {options : QueryOptions} {p : Plan} {rows : List Row}
    {stop : Option QueryError}
    (valid : Plan.make s (RecordSource.columns source) options = .ok p)
    (ungrouped : p.statement.isGrouped = false) (unordered : p.statement.orderBy = [])
    (gives : Scan.Gives p ⟨source, none⟩ rows stop) :
    ∃ after : σ, s.run source { options with scrollable := true } =
      match (rows.mapM p.project).bind (Scan.outcome stop) with
      | .error e => .error ⟨e, after⟩
      | .ok projected =>
        .ok { columns := p.output, state := .buffered (p.kept projected) 0 after } := by
  obtain ⟨after, runs⟩ := run_of_computed (Plan.make_scrolled valid true)
    (Bool.and_false _) (Plan.gives_scrolled gives)
  rw [Plan.computed_of_plain (p := p.scrolled true) ungrouped unordered] at runs
  refine ⟨after, runs.trans ?_⟩
  have project : (p.scrolled true).project = p.project := rfl
  rw [project]
  cases (rows.mapM p.project).bind (Scan.outcome stop) with
  | error e => rfl
  | ok projected =>
    simp only [Except.map, Plan.arrange_of_unordered (p := p.scrolled true) unordered,
      Plan.map_values]
    rfl

/-- A result without groups and order that is streamed and one that is kept as a whole agree with each
other and with what the statement asks for of the table. -/
theorem streamed_run_agrees (s : Statement) (source : σ) (options : QueryOptions) (p : Plan)
    (valid : Plan.make s (RecordSource.columns source) options = .ok p)
    (ungrouped : s.isGrouped = false) (unordered : s.orderBy = []) :
    ∃ streamed, s.run source { options with scrollable := false } = .ok streamed ∧
      (∃ rows stop, streamed.Delivers rows stop) ∧
      (∀ whole, s.run source { options with scrollable := true } = .ok whole →
        ∃ rows, p.Denotes source rows ∧ whole.Delivers rows none ∧ streamed.Delivers rows none) ∧
      (∀ rows e, streamed.Delivers rows (some e) →
        ∃ failed, s.run source { options with scrollable := true } = .error failed ∧
          failed.error = e) ∧
      (s.limit = none → ∀ rows, streamed.Delivers rows none →
        ∃ whole, s.run source { options with scrollable := true } = .ok whole ∧
          whole.Delivers rows none) := by
  obtain rfl := statement_of_make valid
  have streamable : p.isStreamable = true := by simp [Plan.isStreamable, ungrouped, unordered]
  -- Both results are made of the same rows of the table and what stops them.
  obtain ⟨rows, stop, gives⟩ := Scan.exists_gives p ⟨source, none⟩
  obtain ⟨after, whole⟩ := run_whole valid ungrouped unordered gives
  let seen : Option (List (List Value)) := if p.statement.distinct then some [] else none
  have delivers (produced : List (List Value) × Option QueryError)
      (produces : (p.scrolled false).produced stop seen p.offset p.limit rows = produced) :
      Cursor.Delivers
        { columns := p.output, state := .streaming (.start (p.scrolled false) source) }
        produced.1 produced.2 :=
    Cursor.delivers_produced rfl rfl rfl (Plan.gives_scrolled gives) produces
  refine ⟨_, run_streamed valid streamable, ⟨_, _, delivers _ rfl⟩, ?_, ?_, ?_⟩
  · intro cursor succeeds
    cases computed : (rows.mapM p.project).bind (Scan.outcome stop) with
    | error e =>
      rw [computed] at whole
      cases whole.symm.trans succeeds
    | ok projected =>
      rw [computed] at whole
      cases whole.symm.trans succeeds
      obtain ⟨projects, rfl⟩ := Scan.outcome_eq_ok computed
      have produced := Plan.produced_of_projects (p := p.scrolled false) seen p.offset p.limit
        projects
      rw [Plan.unseen_of_distinct] at produced
      exact ⟨_, Plan.denotes_of_gives gives projects,
        Cursor.delivers_buffered rfl rfl (Nat.zero_le _), delivers _ produced⟩
  · intro delivered e fails
    have failing := ((delivers _ rfl).unique fails).2
    have computed : (rows.mapM p.project).bind (Scan.outcome stop) = .error e :=
      Plan.fails_of_produced (p := p.scrolled false) failing
    rw [computed] at whole
    exact ⟨_, whole, rfl⟩
  · intro unlimited delivered ends
    have noLimit : p.limit = none := by simp [Plan.limit, unlimited]
    have ending := ((delivers _ rfl).unique ends).2
    rw [noLimit] at ending
    obtain ⟨rfl, projected, projects⟩ := Plan.projects_of_produced ending
    have computed : (rows.mapM p.project).bind (Scan.outcome none) = .ok projected :=
      congrArg (Except.bind · (Scan.outcome none)) projects
    rw [computed] at whole
    have produced := Plan.produced_of_projects (p := p.scrolled false) seen p.offset p.limit projects
    rw [Plan.unseen_of_distinct] at produced
    obtain ⟨rfl, -⟩ := (delivers _ produced).unique ends
    exact ⟨_, whole, Cursor.delivers_buffered rfl rfl (Nat.zero_le _)⟩

/-- The names of a table, each once, after the first one. -/
theorem streamed_run_agrees_on_names :
    ∃ streamed : Cursor MemoryTable,
      run { distinct := true, columns := [⟨.column none "name", none⟩], offset := some 1 }
          ⟨["name"], [["a"], ["b"], ["a"], ["c"]], []⟩ {} = .ok streamed ∧
        streamed.Delivers [[.text "b"], [.text "c"]] none := by
  obtain ⟨streamed, runs, -, agrees, -⟩ := streamed_run_agrees
    { distinct := true, columns := [⟨.column none "name", none⟩], offset := some 1 }
    (⟨["name"], [["a"], ["b"], ["a"], ["c"]], []⟩ : MemoryTable) {} _ rfl rfl rfl
  obtain ⟨rows, -, whole, delivers⟩ := agrees _ rfl
  obtain ⟨rfl, -⟩ := whole.unique (Cursor.delivers_buffered rfl rfl (Nat.zero_le _))
  exact ⟨streamed, runs, delivers⟩

end PlainTables.Statement
