import PlainTables.Proofs.Evaluation.Failure
import PlainTables.Proofs.Query.Sorting

/-!
# Failing queries

A query over any table fails for its statement and the values that it is asked of, or with the error that
stops the reading of the table. The same holds for going through the rows of its result.
-/

namespace PlainTables

namespace Plan

theorem failsOnly_outcome {α : Type} (stop : Option QueryError) (a : α) :
    FailsOnly (fun e => e.isOfEvaluation = true ∨ stop = some e) (Scan.outcome stop a) := by
  cases stop with
  | none => exact .ok a
  | some e => exact .error (.inr rfl)

variable (p : Plan)

theorem failsOnly_passes (row : Row) : FailsOnly (·.isOfEvaluation) (p.passes row) := by
  unfold passes
  split
  · exact Condition.failsOnly_evaluate _ _
  · exact .ok _

theorem failsOnly_project (row : Row) : FailsOnly (·.isOfEvaluation) (p.project row) :=
  .mapM fun c _ => c.expression.failsOnly_evaluate _

theorem failsOnly_groupKey (row : Row) : FailsOnly (·.isOfEvaluation) (p.groupKey row) :=
  .mapM fun e _ => e.failsOnly_evaluate _

theorem failsOnly_sortKeys (values : List Value) (scope : Scope) :
    FailsOnly (·.isOfEvaluation) (p.sortKeys values scope) := by
  refine .mapM fun item _ => ?_
  unfold sortKey
  split
  · exact .ok _
  · split
    · exact .ok _
    · exact Expression.failsOnly_evaluate _ _
  · exact Expression.failsOnly_evaluate _ _

theorem failsOnly_plainRow (row : Row) : FailsOnly (·.isOfEvaluation) (p.plainRow row) :=
  (p.failsOnly_project row).bind fun _ _ => (p.failsOnly_sortKeys _ _).bind fun _ _ => .ok _

theorem failsOnly_groupRow (g : Group) : FailsOnly (·.isOfEvaluation) (p.groupRow g) := by
  rw [groupRow_eq_keeps]
  refine (FailsOnly.mapM fun c _ => c.expression.failsOnly_evaluate _).bind fun values _ => ?_
  refine FailsOnly.bind ?_ fun kept _ => ?_
  · unfold keeps
    split
    · exact Condition.failsOnly_evaluate _ _
    · exact .ok _
  · cases kept with
    | true => exact (p.failsOnly_sortKeys _ _).bind fun _ _ => .ok _
    | false => exact .ok _

theorem failsOnly_computed (rows : List Row) (stop : Option QueryError) :
    FailsOnly (fun e => e.isOfEvaluation = true ∨ stop = some e) (p.computed rows stop) := by
  have evaluated {α : Type} {x : Except QueryError α} (fails : FailsOnly (·.isOfEvaluation) x) :
      FailsOnly (fun e => e.isOfEvaluation = true ∨ stop = some e) x := fails.mono fun _ => .inl
  unfold computed
  split
  · refine FailsOnly.bind (FailsOnly.bind (evaluated (.mapM fun row _ => ?_)) fun keyed _ =>
      failsOnly_outcome stop keyed) fun keyed _ => ?_
    · exact (p.failsOnly_groupKey row).map _
    · exact evaluated ((FailsOnly.mapM fun g _ => p.failsOnly_groupRow g).map _)
  · exact FailsOnly.bind (evaluated (.mapM fun row _ => p.failsOnly_plainRow row)) fun found _ =>
      failsOnly_outcome stop found

theorem failsOnly_produced {rows : List Row} {stop : Option QueryError}
    {seen : Option (List (List Value))} {toSkip : Nat} {toGive : Option Nat} {e : QueryError}
    (fails : (p.produced stop seen toSkip toGive rows).2 = some e) :
    e.isOfEvaluation = true ∨ stop = some e := by
  have projected : FailsOnly (fun e => e.isOfEvaluation = true ∨ stop = some e)
      ((rows.mapM p.project).bind (Scan.outcome stop)) :=
    FailsOnly.bind ((FailsOnly.mapM fun row _ => p.failsOnly_project row).mono fun _ => .inl)
      fun found _ => failsOnly_outcome stop found
  exact projected e (fails_of_produced fails)

theorem failsOnly_checkColumns : FailsOnly (·.isOfEvaluation) p.checkColumns := by
  unfold checkColumns
  dsimp only
  split
  · exact .error rfl
  · exact .ok _

theorem failsOnly_checkGroupBy : FailsOnly (·.isOfEvaluation) p.checkGroupBy := by
  unfold checkGroupBy
  dsimp only
  split
  · exact .error rfl
  · exact .ok _

theorem failsOnly_checkAggregates : FailsOnly (·.isOfEvaluation) p.checkAggregates := by
  unfold checkAggregates
  split
  · split
    · exact .error rfl
    · exact .ok _
  · exact .ok _

theorem failsOnly_checkOrder (item : OrderItem) : FailsOnly (·.isOfEvaluation) (p.checkOrder item) := by
  unfold checkOrder
  split
  · split
    · exact .error rfl
    · exact .ok _
  · split
    · exact .ok _
    · split
      · exact .error rfl
      · exact .ok _
  · exact .ok _

theorem failsOnly_validate : FailsOnly (·.isOfEvaluation) p.validate :=
  p.failsOnly_checkColumns.bind fun _ _ => p.failsOnly_checkGroupBy.bind fun _ _ =>
    p.failsOnly_checkAggregates.bind fun _ _ => .forM fun item _ => p.failsOnly_checkOrder item

end Plan

/-- What stops a scan has stopped the reading of its table, or it comes from a row. -/
theorem Scan.Gives.failsOnly {σ : Type} [RecordSource σ] {p : Plan} {scan : Scan σ} {rows : List Row}
    {stop : Option QueryError} (gives : Gives p scan rows stop) {e : QueryError} (fails : stop = some e) :
    e.isOfEvaluation = true ∨ ∃ states, RecordSource.Reads scan.source states (some e) := by
  induction gives with
  | ended result => cases fails
  | failed result =>
    cases fails
    exact .inr ⟨[], .failed result⟩
  | untyped _ wrong =>
    cases fails
    exact .inl (QueryError.isOfEvaluation_of_isType (failsOnly_typedRow p _ _ _ wrong))
  | undecided _ _ wrong =>
    cases fails
    exact .inl (p.failsOnly_passes _ _ wrong)
  | dropped result _ _ _ ih =>
    exact (ih fails).imp id fun ⟨states, reads⟩ => ⟨_, .record result reads⟩
  | kept result _ _ _ ih =>
    exact (ih fails).imp id fun ⟨states, reads⟩ => ⟨_, .record result reads⟩

namespace Statement

variable {σ : Type} [RecordSource σ]

/-- A statement fails, at once or while its rows are gone through, for itself and its values, or with the
error that stops the reading of its table. -/
theorem run_failsOnly (s : Statement) (source : σ) (options : QueryOptions) :
    (∀ failed, s.run source options = .error failed → failed.error.isOfEvaluation = true ∨
      ∃ states, RecordSource.Reads source states (some failed.error)) ∧
    ∀ cursor, s.run source options = .ok cursor → ∃ rows stop, cursor.Delivers rows stop ∧
      ∀ e, stop = some e → e.isOfEvaluation = true ∨
        ∃ states, RecordSource.Reads source states (some e) := by
  cases made : Plan.make s (RecordSource.columns source) options with
  | error e =>
    have rejected := run_of_make_eq_error made
    refine ⟨fun failed runs => ?_, fun cursor runs => nomatch rejected.symm.trans runs⟩
    cases rejected.symm.trans runs
    rw [Plan.make_eq_map] at made
    exact .inl ((Plan.failsOnly_validate _).map _ e made)
  | ok p =>
    obtain ⟨rows, stop, gives⟩ := Scan.exists_gives p ⟨source, none⟩
    by_cases streamed : (p.isStreamable && !options.scrollable) = true
    · have succeeds := run_of_streamable made streamed
      refine ⟨fun failed runs => (nomatch succeeds.symm.trans runs), fun cursor runs => ?_⟩
      cases succeeds.symm.trans runs
      refine ⟨_, _, delivers_of_start gives rfl, fun e fails => ?_⟩
      exact (p.failsOnly_produced fails).elim .inl gives.failsOnly
    · obtain ⟨after, whole⟩ := run_of_computed made (by simpa using streamed) gives
      cases computed : p.computed rows stop with
      | error e =>
        rw [computed] at whole
        refine ⟨fun failed runs => ?_, fun cursor runs => nomatch whole.symm.trans runs⟩
        cases whole.symm.trans runs
        exact (p.failsOnly_computed rows stop e computed).elim .inl gives.failsOnly
      | ok found =>
        rw [computed] at whole
        refine ⟨fun failed runs => (nomatch whole.symm.trans runs), fun cursor runs => ?_⟩
        cases whole.symm.trans runs
        exact ⟨_, none, Cursor.delivers_buffered rfl rfl (Nat.zero_le _), nofun⟩

end Statement

end PlainTables
