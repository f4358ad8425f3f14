import PlainTables.Evaluation.Scope
import PlainTables.Query.Plan

/-!
# Expressions in several scopes

An expression without aggregates has the same value in all scopes that agree on its names. So it has the
same one on a row of the table, on this row with the names of the select list, and on a group that starts
with this row, as long as its names are columns of the table.
-/

namespace PlainTables

theorem mapM_congr {ε α β : Type} {f g : α → Except ε β} {items : List α}
    (same : ∀ a ∈ items, f a = g a) : items.mapM f = items.mapM g := by
  induction items with
  | nil => rfl
  | cons a items ih =>
    obtain ⟨first, rest⟩ := List.forall_mem_cons.mp same
    rw [List.mapM_cons, List.mapM_cons, first, ih rest]

namespace Expression

theorem evaluate_congr {scope scope' : Scope} {e : Expression}
    (plain : e.containsAggregate = false)
    (names : ∀ name ∈ e.columnNames true, scope.lookup name = scope'.lookup name) :
    e.evaluate scope = e.evaluate scope' := by
  induction e with
  | wildcard | literal => rfl
  | column q name => rw [evaluate, evaluate, names name List.mem_cons_self]
  | add l r left right =>
    obtain ⟨plainLeft, plainRight⟩ := Bool.or_eq_false_iff.mp plain
    rw [evaluate, evaluate,
      left plainLeft fun name mem => names name (List.mem_append_left _ mem),
      right plainRight fun name mem => names name (List.mem_append_right _ mem)]
  | countRows | aggregate => cases plain

end Expression

theorem Value.type_of_add_error {l r : Value} {e : QueryError} (fails : l.add r = .error e) :
    ∃ fault, e = .type fault := by
  unfold add at fails
  split at fails
  case h_5 =>
    split at fails
    · cases fails
    · exact ⟨_, (Except.error.inj fails).symm⟩
  case h_11 => exact ⟨_, (Except.error.inj fails).symm⟩
  all_goals cases fails

/-- Where all names are known, an expression does not fail for an unknown one. -/
theorem Expression.known_of_evaluate_error {scope : Scope} {e : Expression} {err : QueryError}
    (plain : e.containsAggregate = false)
    (known : ∀ name ∈ e.columnNames true, (scope.lookup name).isSome)
    (fails : e.evaluate scope = .error err) (name : String) : err ≠ .unknownColumn name := by
  induction e with
  | wildcard =>
    cases fails
    simp
  | column q own =>
    obtain ⟨v, found⟩ := Option.isSome_iff_exists.mp (known own List.mem_cons_self)
    rw [evaluate, found] at fails
    cases fails
  | literal v => cases fails
  | add l r left right =>
    obtain ⟨plainLeft, plainRight⟩ := Bool.or_eq_false_iff.mp plain
    rw [evaluate] at fails
    cases leftValue : l.evaluate scope with
    | error e =>
      rw [leftValue] at fails
      cases fails
      exact left plainLeft (fun name mem => known name (List.mem_append_left _ mem)) leftValue
    | ok x =>
      cases rightValue : r.evaluate scope with
      | error e =>
        rw [leftValue, rightValue] at fails
        cases fails
        exact right plainRight (fun name mem => known name (List.mem_append_right _ mem)) rightValue
      | ok y =>
        rw [leftValue, rightValue] at fails
        obtain ⟨fault, rfl⟩ := Value.type_of_add_error fails
        simp
  | countRows | aggregate => cases plain

namespace Plan

variable {p : Plan}

/-- The row has a value for each column of the table. -/
structure Covers (p : Plan) (row : Row) : Prop where
  columns : row.columns = p.source
  full : row.values.length = p.source.size

theorem Covers.get?_isSome {row : Row} (covers : p.Covers row) (name : String) :
    (row.get? name).isSome = p.isKnown name := by
  unfold Row.get? isKnown
  rw [covers.columns]
  cases place : p.source.position? name with
  | none => rfl
  | some i =>
    have within : i < p.source.names.length := (List.findIdx?_eq_some_iff_getElem.mp place).1
    have within : i < row.values.length := covers.full ▸ within
    simp [within]

theorem Covers.exists_get? {row : Row} (covers : p.Covers row) {name : String}
    (known : p.isKnown name = true) : ∃ v, row.get? name = some v :=
  Option.isSome_iff_exists.mp ((covers.get?_isSome name).trans known)

theorem Covers.get?_eq_none {row : Row} (covers : p.Covers row) {name : String}
    (unknown : p.isKnown name = false) : row.get? name = none :=
  Option.not_isSome_iff_eq_none.mp (by rw [covers.get?_isSome name, unknown]; exact Bool.false_ne_true)

/-- The names of the select list do not hide the columns of the table. -/
theorem Covers.evaluate_ofAliasedRow {row : Row} (covers : p.Covers row) {e : Expression}
    (plain : e.containsAggregate = false) (known : ∀ name ∈ e.columnNames true, p.isKnown name = true) :
    e.evaluate (.ofAliasedRow p.columns row) = e.evaluate (.ofRow row) := by
  refine Expression.evaluate_congr plain fun name mem => ?_
  obtain ⟨v, found⟩ := covers.exists_get? (known name mem)
  simp only [Scope.ofAliasedRow, Scope.ofRow, found]

theorem Covers.evaluate_ofGroup {row : Row} (covers : p.Covers row) (rows : List Row)
    (outputs : List Value) {e : Expression} (plain : e.containsAggregate = false)
    (known : ∀ name ∈ e.columnNames true, p.isKnown name = true) :
    e.evaluate (.ofGroup p.columns outputs (row :: rows)) = e.evaluate (.ofRow row) := by
  refine Expression.evaluate_congr plain fun name mem => ?_
  obtain ⟨v, found⟩ := covers.exists_get? (known name mem)
  simp only [Scope.ofGroup, Scope.ofRow, List.head?_cons, Option.bind_some, found]

theorem known_of_checkColumns (checked : p.checkColumns = .ok ()) {c : OutputColumn}
    (mem : c ∈ p.columns) {name : String} (named : name ∈ c.expression.columnNames true) :
    p.isKnown name = true := by
  simp only [checkColumns] at checked
  split at checked
  · cases checked
  · rename_i noneMissing
    have found := List.find?_eq_none.mp noneMissing name (List.mem_flatMap.mpr ⟨c, mem, named⟩)
    simpa using found

theorem checkColumns_of_validate (valid : p.validate = .ok ()) : p.checkColumns = .ok () := by
  unfold validate at valid
  cases columns : p.checkColumns with
  | error e => rw [columns] at valid; cases valid
  | ok _ => rfl

end Plan

end PlainTables
