import PlainTables.Proofs.Evaluation.Scope
import PlainTables.Proofs.Computation
import PlainTables.Query.Scan

/-!
# Failing evaluation

Adding, aggregating and reading typed values fails for types and sizes only. Expressions and conditions fail
for these, for names, and for what a statement asks for in the wrong place.
-/

namespace PlainTables

theorem Value.failsOnly_add (l r : Value) : FailsOnly (·.isType) (l.add r) := by
  intro e fails
  obtain ⟨fault, rfl⟩ := type_of_add_error fails
  rfl

namespace Aggregate

theorem failsOnly_sumOf (label : String) (vs : List Value) : FailsOnly (·.isType) (sumOf label vs) := by
  have adds (t : Total) (v : Value) : FailsOnly (·.isType) (Total.add label t v) := by
    unfold Total.add
    split
    · split
      · exact .ok _
      · exact .error rfl
    · split
      · exact .ok _
      · exact .error rfl
  unfold sumOf
  split
  · exact .ok _
  · exact (FailsOnly.foldlM vs adds {}).map _

theorem failsOnly_apply (f : Aggregate) (label : String) (vs : List Value) :
    FailsOnly (·.isType) (f.apply label vs) := by
  cases f with
  | count => exact .ok _
  | sum => exact failsOnly_sumOf label vs
  | avg =>
    refine (failsOnly_sumOf label vs).bind fun total _ => ?_
    split
    · exact .ok _
    · exact .ok _
  | min => exact .ok _
  | max => exact .ok _

end Aggregate

theorem Formats.failsOnly_coerce (c : Formats) (raw : String) (type : DataType) :
    FailsOnly (·.isType) (c.coerce raw type) := by
  unfold coerce
  split
  · exact .ok _
  · dsimp only
    split
    · exact .ok _
    · split
      · exact .ok _
      · exact .error rfl

theorem Scan.failsOnly_typedRow {σ : Type} [RecordSource σ] (p : Plan) (types : List ColumnType) (s : σ) :
    FailsOnly (·.isType) (typedRow p types s) := by
  refine (FailsOnly.mapM fun ⟨t, i⟩ _ => ?_).bind fun values _ => .ok _
  change FailsOnly _ (typedValue p.options.formats t (RecordSource.field s i))
  unfold typedValue
  split
  · exact .ok _
  · split
    · exact Formats.failsOnly_coerce _ _ t.type
    · exact .ok _

namespace Expression

theorem failsOnly_evaluate (e : Expression) (scope : Scope) :
    FailsOnly (·.isOfEvaluation) (e.evaluate scope) := by
  induction e generalizing scope with
  | wildcard => exact .error rfl
  | column q name =>
    rw [evaluate]
    split
    · exact .ok _
    · exact .error rfl
  | literal v => exact .ok v
  | add l r left right =>
    rw [evaluate]
    refine (left scope).bind fun x _ => (right scope).bind fun y _ => ?_
    exact (x.failsOnly_add y).mono fun _ => QueryError.isOfEvaluation_of_isType
  | countRows =>
    rw [evaluate]
    split
    · exact .ok _
    · exact .error rfl
  | aggregate f argument inside =>
    rw [evaluate]
    cases scope.group with
    | none => exact .error rfl
    | some rows =>
      refine (FailsOnly.mapM fun row _ => inside (.ofRow row)).bind fun vs _ => ?_
      exact (f.failsOnly_apply _ _).mono fun _ => QueryError.isOfEvaluation_of_isType

theorem failsOnly_operand (e : Expression) (scope : Scope) :
    FailsOnly (·.isOfEvaluation) (e.operand scope) := by
  have value := e.failsOnly_evaluate scope
  unfold operand
  split
  · exact .ok _
  · exact .ok _
  · exact .ok _
  · rename_i failed
    exact (failed ▸ value).passOn

end Expression

theorem Like.failsOnly_program (pattern : String) : FailsOnly (·.isType) (program pattern) := by
  unfold program
  split
  · exact .ok _
  · exact .error rfl

namespace Condition

variable {kind : QueryError → Prop} {scope : Scope}

theorem failsOnly_of_operands (operands : ∀ e : Expression, FailsOnly kind (e.operand scope))
    (patterns : ∀ err : QueryError, err.isType → kind err) (c : Condition) :
    FailsOnly kind (c.evaluate scope) := by
  induction c with
  | compare op l r => exact (operands l).bind fun _ _ => (operands r).bind fun _ _ => .ok _
  | between e low high =>
    exact (operands e).bind fun _ _ => (operands low).bind fun _ _ =>
      (operands high).bind fun _ _ => .ok _
  | like e pattern =>
    refine (operands e).bind fun x _ => ?_
    cases x with
    | none => exact .ok _
    | some v => exact ((Like.failsOnly_program pattern).mono patterns).bind fun _ _ => .ok _
  | isNull e => exact (operands e).bind fun _ _ => .ok _
  | not c ih => exact ih.bind fun _ _ => .ok _
  | and l r left right =>
    refine left.bind fun b _ => ?_
    cases b with
    | true => exact right
    | false => exact .ok _
  | or l r left right =>
    refine left.bind fun b _ => ?_
    cases b with
    | true => exact .ok _
    | false => exact right

theorem failsOnly_evaluate (c : Condition) (scope : Scope) :
    FailsOnly (·.isOfEvaluation) (c.evaluate scope) :=
  c.failsOnly_of_operands (fun e => e.failsOnly_operand scope) fun _ => QueryError.isOfEvaluation_of_isType

end Condition

end PlainTables
