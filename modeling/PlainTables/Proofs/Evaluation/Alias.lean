import PlainTables.Proofs.Evaluation.Scope
import PlainTables.Proofs.Query.Whole
import PlainTables.Proofs.Text.Casing
import PlainTables.Records.Memory

/-!
# Names of the select list

In WHERE a name that a column of the select list has been given means the expression of this column. A
condition with the name has the outcome of the condition with the expression written out, except on a row
on which the expression cannot be computed: written out it fails the query, while its name is then passed
over like one that nothing has.
-/

namespace PlainTables

/-- The expression with another one in place of a name. What is aggregated over are columns of the
table, which no name of the select list stands for. -/
def Expression.replace (x : Expression) (name : String) (e : Expression) : Expression :=
  match x with
  | column q other => if Text.sameName name other then e else column q other
  | add l r => add (l.replace name e) (r.replace name e)
  | x => x

def Condition.replace (c : Condition) (name : String) (e : Expression) : Condition :=
  match c with
  | compare op l r => compare op (l.replace name e) (r.replace name e)
  | between x low high => between (x.replace name e) (low.replace name e) (high.replace name e)
  | like x pattern => like (x.replace name e) pattern
  | isNull x => isNull (x.replace name e)
  | not c => not (c.replace name e)
  | and l r => and (l.replace name e) (r.replace name e)
  | or l r => or (l.replace name e) (r.replace name e)

/-- The results are the same, unless the first one is one of the failures. -/
def AgreesUnless {α : Type} (failure : QueryError → Prop) (x y : Except QueryError α) : Prop :=
  x = y ∨ ∃ err, failure err ∧ x = .error err

namespace AgreesUnless

variable {α β : Type} {failure : QueryError → Prop} {x y : Except QueryError α}

theorem refl (x : Except QueryError α) : AgreesUnless failure x x :=
  .inl rfl

theorem bind {f g : α → Except QueryError β} (first : AgreesUnless failure x y)
    (rest : ∀ a, AgreesUnless failure (f a) (g a)) : AgreesUnless failure (x >>= f) (y >>= g) := by
  rcases first with rfl | ⟨err, fails, rfl⟩
  · cases x with
    | error e => exact .refl _
    | ok a => exact rest a
  · exact .inr ⟨err, fails, rfl⟩

section

variable {scope : Scope} {name : String} {e : Expression}

/-- It is enough to agree on the name itself: a sum fails with its operands. -/
theorem evaluate (named : ∀ q other, Text.sameName name other = true →
      AgreesUnless failure (e.evaluate scope) ((Expression.column q other).evaluate scope))
    (x : Expression) : AgreesUnless failure ((x.replace name e).evaluate scope) (x.evaluate scope) := by
  induction x with
  | wildcard | literal | countRows | aggregate => exact .refl _
  | column q other =>
    rw [Expression.replace]
    split
    · next same => exact named q other same
    · exact .refl _
  | add l r left right =>
    rw [Expression.replace, Expression.evaluate, Expression.evaluate]
    exact left.bind fun _ => right.bind fun _ => .refl _

variable (expressions : ∀ x : Expression,
    AgreesUnless failure ((x.replace name e).evaluate scope) (x.evaluate scope))
  (loud : ∀ err, failure err → ∀ unknown, err ≠ .unknownColumn unknown)

include expressions loud

theorem operand (x : Expression) :
    AgreesUnless failure ((x.replace name e).operand scope) (x.operand scope) := by
  unfold Expression.operand
  rcases expressions x with same | ⟨err, fails, result⟩
  · exact .inl (by rw [same])
  · refine .inr ⟨err, fails, ?_⟩
    rw [result]
    cases err with
    | unknownColumn unknown => exact absurd rfl (loud _ fails unknown)
    | _ => rfl

/-- A condition reads its operands in one order, so that it fails with the first of them that does. -/
theorem condition (c : Condition) :
    AgreesUnless failure ((c.replace name e).evaluate scope) (c.evaluate scope) := by
  have operand := operand expressions loud
  induction c with
  | compare op l r => exact (operand l).bind fun _ => (operand r).bind fun _ => .refl _
  | between x low high =>
    exact (operand x).bind fun _ => (operand low).bind fun _ => (operand high).bind fun _ => .refl _
  | like x _ | isNull x => exact (operand x).bind fun _ => .refl _
  | not c ih => exact ih.bind fun _ => .refl _
  | and l r left right =>
    refine left.bind fun holds => ?_
    cases holds with
    | false => exact .refl _
    | true => exact right
  | or l r left right =>
    refine left.bind fun holds => ?_
    cases holds with
    | false => exact right
    | true => exact .refl _

end

end AgreesUnless

namespace Plan

variable {p : Plan}

/-- A name that is no column of the table stands for the first column of the select list that has it. -/
theorem Covers.lookup_alias {row : Row} (covers : p.Covers row) {before after : List OutputColumn}
    {e : Expression} {name other : String} (list : p.columns = before ++ ⟨e, some name⟩ :: after)
    (plain : e.containsAggregate = false) (unknown : p.isKnown name = false)
    (first : ∀ c ∈ before, c.isNamed name = false) (same : Text.sameName name other = true) :
    (Scope.ofAliasedRow p.columns row).lookup other = (e.evaluate (.ofRow row)).toOption := by
  have absent : row.get? other = none := by
    refine covers.get?_eq_none ?_
    rwa [isKnown, ← Columns.position?_congr _ same]
  have earlier : ∀ c ∈ before, ¬ c.isNamed other = true := by
    intro c mem named
    obtain ⟨own, given, sameOwn⟩ := (Option.any_eq_true _ _).mp named
    have back : Text.sameName other name = true := Text.sameName_comm name other ▸ same
    have ownName : c.isNamed name = true :=
      (Option.any_eq_true _ _).mpr ⟨own, given, Text.sameName_trans sameOwn back⟩
    rw [first c mem] at ownName
    cases ownName
  have found : p.columns.find? (·.isNamed other) = some ⟨e, some name⟩ := by
    have own : (⟨e, some name⟩ : OutputColumn).isNamed other = true := same
    rw [list, List.find?_append, List.find?_eq_none.mpr earlier, Option.none_or, List.find?_cons,
      own]
  simp only [Scope.ofAliasedRow, absent, found, plain, Bool.false_eq_true, if_false]

/-- A name of the select list and its expression written out give a condition one outcome on every row,
unless the expression cannot be computed on the row and the condition with the expression fails for that
reason. -/
theorem condition_of_alias (s : Statement) (names : List String) (options : QueryOptions) (p : Plan)
    (valid : make s names options = .ok p) (row : Row) (covers : p.Covers row)
    (before after : List OutputColumn) (e : Expression) (name : String)
    (list : p.columns = before ++ ⟨e, some name⟩ :: after) (plain : e.containsAggregate = false)
    (unknown : p.isKnown name = false) (first : ∀ c ∈ before, c.isNamed name = false)
    (c : Condition) :
    (c.replace name e).evaluate (.ofAliasedRow p.columns row) =
        c.evaluate (.ofAliasedRow p.columns row) ∨
      ∃ err, e.evaluate (.ofRow row) = .error err ∧
        (c.replace name e).evaluate (.ofAliasedRow p.columns row) = .error err := by
  have known : ∀ own ∈ e.columnNames true, p.isKnown own = true := fun own mem =>
    known_of_checkColumns (checkColumns_of_validate (make_eq_ok_iff.mp valid).2)
      (list ▸ List.mem_append_right before List.mem_cons_self) mem
  have onRow := covers.evaluate_ofAliasedRow plain known
  change AgreesUnless (fun err => e.evaluate (.ofRow row) = .error err) _ _
  refine AgreesUnless.condition (AgreesUnless.evaluate ?_) ?_ c
  · intro q other same
    have meant := covers.lookup_alias list plain unknown first same
    rw [onRow, Expression.evaluate, meant]
    cases computed : e.evaluate (.ofRow row) with
    | ok v => exact .inl rfl
    | error err => exact .inr ⟨err, rfl, rfl⟩
  · intro err fails
    refine Expression.known_of_evaluate_error plain (fun own mem => ?_) fails
    exact (covers.get?_isSome own).trans (known own mem)

/-- A sum with a name is compared by it as by its operands. -/
theorem condition_of_alias_successor :
    (Condition.compare .gt (.column none "M") (.literal (.integer 7))).evaluate
        (.ofAliasedRow [⟨.add (.column none "n") (.literal (.integer 1)), some "m"⟩]
          ⟨⟨["n"]⟩, [.integer 7]⟩) = .ok true ∧
      (Condition.compare .gt (.add (.column none "n") (.literal (.integer 1)))
          (.literal (.integer 7))).evaluate
        (.ofAliasedRow [⟨.add (.column none "n") (.literal (.integer 1)), some "m"⟩]
          ⟨⟨["n"]⟩, [.integer 7]⟩) = .ok true := by
  have outcome := condition_of_alias
    { columns := [⟨.add (.column none "n") (.literal (.integer 1)), some "m"⟩] } ["n"] {} _ rfl
    ⟨⟨["n"]⟩, [.integer 7]⟩ ⟨rfl, rfl⟩ [] [] (.add (.column none "n") (.literal (.integer 1))) "m" rfl rfl
    rfl (by simp) (.compare .gt (.column none "M") (.literal (.integer 7)))
  have same := outcome.resolve_right fun ⟨_, fails, _⟩ => by cases fails
  exact ⟨rfl, same.trans rfl⟩

/-- A row with a sum that is too large is passed over under the name of the sum and fails the query under
the sum itself. -/
theorem row_of_overflow_is_dropped :
    (Statement.run
        { columns := [⟨.add (.column none "n") (.literal (.integer 1)), some "m"⟩]
          filter := some (.compare .gt (.column none "m") (.literal (.integer 0))) }
        (⟨["n"], [["9223372036854775807"], ["1"]], []⟩ : MemoryTable) { scrollable := true }).map
          (·.fetch.1) = .ok ([[.integer 2]], none) ∧
      ∃ table : MemoryTable,
        (Statement.run
          { columns := [⟨.add (.column none "n") (.literal (.integer 1)), some "m"⟩]
            filter := some ((Condition.compare .gt (.column none "m") (.literal (.integer 0))).replace
              "m" (.add (.column none "n") (.literal (.integer 1)))) }
          (⟨["n"], [["9223372036854775807"], ["1"]], []⟩ : MemoryTable) { scrollable := true }).map
            (·.fetch.1) = .error ⟨.type (.sumOverflow 9223372036854775807 1), table⟩ :=
  ⟨rfl, _, rfl⟩

end Plan

end PlainTables
