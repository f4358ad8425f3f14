import Mathlib.Data.List.Forall2
import PlainTables.Proofs.Records.Outcome
import PlainTables.Statement.Parse

/-!
# Resolved names

The columns that a statement refers to, in the order of its text, and what becomes of their qualifiers when the
statement is read.
-/

namespace PlainTables

/-- A column as a statement refers to it, by its name behind a qualifier or alone. -/
abbrev ColumnRef := Option String × String

/-- What the reference to a column becomes. A qualifier that names the table is dropped, and any other one
belongs to the name. -/
inductive ColumnRef.ResolvesTo (table : Option NamedTable) : ColumnRef → ColumnRef → Prop
  | unqualified (name : String) : ResolvesTo table (none, name) (none, name)
  | ofTable {t : NamedTable} {q : String} (name : String) : table = some t →
      (Text.sameName t.name q ∨ ∃ a, t.alias? = some a ∧ Text.sameName a q) →
      ResolvesTo table (some q, name) (none, name)
  | dotted {q : String} (name : String) :
      (∀ t, table = some t →
        ¬ Text.sameName t.name q ∧ ∀ a, t.alias? = some a → ¬ Text.sameName a q) →
      ResolvesTo table (some q, name) (none, q ++ "." ++ name)

theorem ColumnRef.ResolvesTo.unqualified_right {table : Option NamedTable} {ref ref' : ColumnRef}
    (resolves : ResolvesTo table ref ref') : ref'.1 = none := by
  cases resolves with
  | unqualified => rfl
  | ofTable => rfl
  | dotted => rfl

/-- The columns that an operand refers to, those inside aggregates among them. -/
def Expression.columnRefs : Expression → List ColumnRef
  | wildcard | literal _ | countRows => []
  | column q name => [(q, name)]
  | add l r => l.columnRefs ++ r.columnRefs
  | aggregate _ argument => argument.columnRefs

def Condition.columnRefs : Condition → List ColumnRef
  | compare _ l r => l.columnRefs ++ r.columnRefs
  | between e low high => e.columnRefs ++ low.columnRefs ++ high.columnRefs
  | like e _ | isNull e => e.columnRefs
  | not c => c.columnRefs
  | and l r | or l r => l.columnRefs ++ r.columnRefs

namespace Statement

def selectRefs (s : Statement) : List ColumnRef :=
  s.columns.flatMap (·.expression.columnRefs)

def clauseRefs (s : Statement) : List ColumnRef :=
  s.filter.toList.flatMap (·.columnRefs) ++ s.groupBy.flatMap (·.columnRefs) ++
    s.having.toList.flatMap (·.columnRefs) ++ s.orderBy.flatMap (·.expression.columnRefs)

end Statement

open ColumnRef (ResolvesTo)

variable {table : Option NamedTable}

theorem NamedTable.answersTo_iff {t : NamedTable} {q : String} :
    t.answersTo q = true ↔
      Text.sameName t.name q ∨ ∃ a, t.alias? = some a ∧ Text.sameName a q := by
  unfold answersTo
  cases t.alias? with
  | none => simp
  | some a => simp

theorem Expression.resolvesTo_resolve (e : Expression) :
    List.Forall₂ (ResolvesTo table) e.columnRefs (e.resolve table).columnRefs := by
  induction e with
  | wildcard => exact .nil
  | literal v => exact .nil
  | countRows => exact .nil
  | add l r left right => exact List.rel_append left right
  | aggregate f argument ih => exact ih
  | column q name =>
    cases q with
    | none => exact .cons (.unqualified name) .nil
    | some q =>
      by_cases named : table.any (·.answersTo q) = true
      · obtain ⟨t, isTable, answers⟩ := (Option.any_eq_true _ _).mp named
        rw [Expression.resolve, if_pos named]
        exact .cons (.ofTable name isTable (NamedTable.answersTo_iff.mp answers)) .nil
      · rw [Expression.resolve, if_neg named]
        refine .cons (.dotted name ?_) .nil
        intro t isTable
        have other : ¬ t.answersTo q = true := by simpa [isTable] using named
        rw [NamedTable.answersTo_iff, not_or] at other
        constructor
        · exact other.1
        · intro a isAlias same
          exact other.2 ⟨a, isAlias, same⟩

theorem Condition.resolvesTo_resolve (c : Condition) :
    List.Forall₂ (ResolvesTo table) c.columnRefs (c.resolve table).columnRefs := by
  induction c with
  | compare op l r => exact List.rel_append l.resolvesTo_resolve r.resolvesTo_resolve
  | between e low high =>
    exact List.rel_append (List.rel_append e.resolvesTo_resolve low.resolvesTo_resolve)
      high.resolvesTo_resolve
  | like e _ => exact e.resolvesTo_resolve
  | isNull e => exact e.resolvesTo_resolve
  | not c ih => exact ih
  | and l r left right => exact List.rel_append left right
  | or l r left right => exact List.rel_append left right

theorem ColumnRef.resolvesTo_flatMap {α : Type} {refs : α → List ColumnRef} {resolve : α → α}
    (each : ∀ a, List.Forall₂ (ResolvesTo table) (refs a) (refs (resolve a))) (items : List α) :
    List.Forall₂ (ResolvesTo table) (items.flatMap refs) ((items.map resolve).flatMap refs) := by
  induction items with
  | nil => exact .nil
  | cons a items ih =>
    rw [List.map_cons, List.flatMap_cons, List.flatMap_cons]
    exact List.rel_append (each a) ih

theorem ColumnRef.unqualified_of_resolvesTo {refs refs' : List ColumnRef}
    (resolves : List.Forall₂ (ResolvesTo table) refs refs') : ∀ ref ∈ refs', ref.1 = none := by
  induction resolves with
  | nil => exact List.forall_mem_nil _
  | cons first _ ih => exact List.forall_mem_cons.mpr ⟨first.unqualified_right, ih⟩

namespace Statement

theorem resolve_from? (s : Statement) : s.resolve.from? = s.from? := by
  unfold resolve
  split <;> rfl

theorem resolvesTo_selectRefs (s : Statement) :
    List.Forall₂ (ResolvesTo s.from?) s.selectRefs s.resolve.selectRefs := by
  have columns : s.resolve.columns =
      s.columns.map fun c => { c with expression := c.expression.resolve s.from? } := by
    unfold resolve
    split <;> rfl
  rw [selectRefs, selectRefs, columns]
  exact ColumnRef.resolvesTo_flatMap (fun c => c.expression.resolvesTo_resolve) s.columns

theorem resolvesTo_clauseRefs {s : Statement} (ofTable : s.from? ≠ none) :
    List.Forall₂ (ResolvesTo s.from?) s.clauseRefs s.resolve.clauseRefs := by
  have conditions (c? : Option Condition) :
      List.Forall₂ (ResolvesTo s.from?) (c?.toList.flatMap (·.columnRefs))
        ((c?.map (·.resolve s.from?)).toList.flatMap (·.columnRefs)) := by
    rw [Option.toList_map]
    exact ColumnRef.resolvesTo_flatMap Condition.resolvesTo_resolve c?.toList
  unfold resolve
  split
  · next noTable => exact absurd noTable ofTable
  · refine List.rel_append (List.rel_append (List.rel_append ?_ ?_) ?_) ?_
    · exact conditions s.filter
    · exact ColumnRef.resolvesTo_flatMap Expression.resolvesTo_resolve s.groupBy
    · exact conditions s.having
    · exact ColumnRef.resolvesTo_flatMap (fun o => o.expression.resolvesTo_resolve) s.orderBy

theorem clauseRefs_resolve_of_no_table {s : Statement} (noTable : s.from? = none) :
    s.resolve.clauseRefs = s.clauseRefs := by
  unfold resolve
  rw [noTable]
  rfl

/-- Reading a statement resolves every reference, so that no qualifier is left. Without a table this goes for
the select list alone, which is enough if no qualifier is written elsewhere. -/
theorem parse_resolves {sql : String} {s : Statement} (parsed : parse sql = .ok s) :
    ∃ written rest, Grammar.statement (body sql.toList) = .ok (written, rest) ∧
      List.Forall₂ (ResolvesTo s.from?) written.selectRefs s.selectRefs ∧
      (∀ ref ∈ s.selectRefs, ref.1 = none) ∧
      (s.from? ≠ none ∨ (∀ ref ∈ written.clauseRefs, ref.1 = none) →
        List.Forall₂ (ResolvesTo s.from?) written.clauseRefs s.clauseRefs ∧
        ∀ ref ∈ s.clauseRefs, ref.1 = none) := by
  obtain ⟨written, rest, read, -, rfl⟩ := parse_eq_ok_iff.mp parsed
  have select := resolvesTo_selectRefs written
  rw [resolve_from?]
  refine ⟨written, rest, read, select, ColumnRef.unqualified_of_resolvesTo select, ?_⟩
  intro resolvable
  have clauses : List.Forall₂ (ResolvesTo written.from?) written.clauseRefs
      written.resolve.clauseRefs := by
    by_cases ofTable : written.from? = none
    · have unqualified := resolvable.resolve_left (not_not.mpr ofTable)
      rw [clauseRefs_resolve_of_no_table ofTable, List.forall₂_same]
      rintro ⟨q, name⟩ mem
      obtain rfl : q = none := unqualified _ mem
      exact .unqualified name
    · exact resolvesTo_clauseRefs ofTable
  exact ⟨clauses, ColumnRef.unqualified_of_resolvesTo clauses⟩

/-- The name and the alias of a table are dropped in any case, and another qualifier is kept in the name. -/
theorem parse_resolves_countries :
    ∃ s, parse ("SELECT c.Country, SUM(countries.Size), x.y FROM countries c " ++
        "WHERE NOT C.Country = 'NO' ORDER BY x.y") = .ok s ∧
      s.selectRefs = [(none, "Country"), (none, "Size"), (none, "x.y")] ∧
      s.clauseRefs = [(none, "Country"), (none, "x.y")] ∧ ∀ ref ∈ s.clauseRefs, ref.1 = none := by
  have refs : (parse ("SELECT c.Country, SUM(countries.Size), x.y FROM countries c " ++
      "WHERE NOT C.Country = 'NO' ORDER BY x.y")).map (fun s => (s.selectRefs, s.clauseRefs, s.from?)) =
        .ok ([(none, "Country"), (none, "Size"), (none, "x.y")], [(none, "Country"), (none, "x.y")],
          some ⟨"countries", some "c"⟩) := by
    decide +kernel
  obtain ⟨s, parsed, same⟩ := exists_of_map_eq_ok refs
  simp only [Prod.mk.injEq] at same
  obtain ⟨select, clauses, table⟩ := same
  obtain ⟨written, rest, -, -, -, resolved⟩ := parse_resolves parsed
  exact ⟨s, parsed, select, clauses, (resolved (.inl (by simp [table]))).2⟩

/-- Without a table, qualifiers outside of the select list are left. -/
theorem qualifier_without_table :
    (parse "SELECT 1 AS x WHERE a.b = 1").map clauseRefs = .ok [(some "a", "b")] := by
  decide +kernel

end Statement

end PlainTables
