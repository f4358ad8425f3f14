import Mathlib.Data.List.Forall2
import PlainTables.Proofs.Evaluation.Scope
import PlainTables.Query.Result

/-!
# Rows that agree on names

Whatever is evaluated over a row or a group of rows depends on the values under the names that occur in it,
and on nothing else of the rows.
-/

namespace PlainTables

/-- Two computations fail with one error, or both succeed with results that are related. -/
inductive Alike {α β : Type} (R : α → β → Prop) : Except QueryError α → Except QueryError β → Prop
  | error (e : QueryError) : Alike R (.error e) (.error e)
  | ok {a : α} {b : β} : R a b → Alike R (.ok a) (.ok b)

namespace Alike

variable {α β γ δ : Type} {R : α → β → Prop} {S : γ → δ → Prop}

theorem of_eq {x y : Except QueryError α} (same : x = y) : Alike Eq x y := by
  subst same
  cases x with
  | error e => exact .error e
  | ok a => exact .ok rfl

theorem eq {x y : Except QueryError α} (alike : Alike Eq x y) : x = y := by
  cases alike with
  | error e => rfl
  | ok same => rw [same]

theorem bind {x : Except QueryError α} {y : Except QueryError β} {f : α → Except QueryError γ}
    {g : β → Except QueryError δ} (first : Alike R x y)
    (rest : ∀ a b, R a b → Alike S (f a) (g b)) : Alike S (x >>= f) (y >>= g) := by
  cases first with
  | error e => exact .error e
  | ok related => exact rest _ _ related

theorem map {x : Except QueryError α} {y : Except QueryError β} {f : α → γ} {g : β → δ}
    (first : Alike R x y) (rest : ∀ a b, R a b → S (f a) (g b)) : Alike S (x.map f) (y.map g) := by
  cases first with
  | error e => exact .error e
  | ok related => exact .ok (rest _ _ related)

theorem mapM {f : α → Except QueryError γ} {g : β → Except QueryError δ} {items : List α}
    {others : List β} (related : List.Forall₂ R items others)
    (each : ∀ a b, R a b → Alike S (f a) (g b)) :
    Alike (List.Forall₂ S) (items.mapM f) (others.mapM g) := by
  induction related with
  | nil => exact .ok .nil
  | cons first _ ih =>
    rw [List.mapM_cons, List.mapM_cons]
    exact (each _ _ first).bind fun c d here => ih.bind fun cs ds rest => .ok (.cons here rest)

end Alike

theorem mapM_eq_of_forall₂ {α β γ : Type} {f : α → Except QueryError γ}
    {g : β → Except QueryError γ} {items : List α} {others : List β}
    (each : List.Forall₂ (fun a b => f a = g b) items others) : items.mapM f = others.mapM g := by
  have alike := Alike.mapM each fun _ _ same => .of_eq same
  rw [List.forall₂_eq_eq_eq] at alike
  exact alike.eq

def Condition.columnNames : Condition → List String
  | compare _ l r => l.columnNames true ++ r.columnNames true
  | between e low high => e.columnNames true ++ (low.columnNames true ++ high.columnNames true)
  | like e _ | isNull e => e.columnNames true
  | not c => c.columnNames
  | and l r | or l r => l.columnNames ++ r.columnNames

/-- The names in the select list, WHERE, GROUP BY, HAVING and ORDER BY. -/
def Statement.columnNames (s : Statement) : List String :=
  s.columns.flatMap (·.expression.columnNames true) ++ s.filter.toList.flatMap Condition.columnNames ++
    s.groupBy.flatMap (·.columnNames true) ++ s.having.toList.flatMap Condition.columnNames ++
    s.orderBy.flatMap (·.expression.columnNames true)

variable {names : List String}

/-- The rows have the same value, or both none, under each of the names. -/
def Row.AgreeOn (names : List String) (r r' : Row) : Prop :=
  ∀ name ∈ names, r.get? name = r'.get? name

/-- The scopes give the names the same values, and aggregate over rows that agree. -/
structure Scope.AgreeOn (names : List String) (scope scope' : Scope) : Prop where
  lookup : ∀ name ∈ names, scope.lookup name = scope'.lookup name
  group : Option.Rel (List.Forall₂ (Row.AgreeOn names)) scope.group scope'.group

theorem Row.AgreeOn.ofRow {r r' : Row} (agree : r.AgreeOn names r') :
    Scope.AgreeOn names (.ofRow r) (.ofRow r') :=
  ⟨agree, .none⟩

namespace Expression

theorem evaluate_agree {scope scope' : Scope} {e : Expression} (agree : scope.AgreeOn names scope')
    (named : e.columnNames true ⊆ names) : e.evaluate scope = e.evaluate scope' := by
  induction e generalizing scope scope' with
  | wildcard | literal => rfl
  | column q name => rw [evaluate, evaluate, agree.lookup name (named List.mem_cons_self)]
  | add l r left right =>
    obtain ⟨namedLeft, namedRight⟩ := List.append_subset.mp named
    rw [evaluate, evaluate, left agree namedLeft, right agree namedRight]
  | countRows =>
    rw [evaluate, evaluate]
    obtain ⟨-, group⟩ := agree
    generalize scope.group = own, scope'.group = other at group
    cases group with
    | none => rfl
    | some members => simp only [members.length_eq]
  | aggregate f argument ih =>
    rw [evaluate, evaluate]
    obtain ⟨-, group⟩ := agree
    generalize scope.group = own, scope'.group = other at group
    cases group with
    | none => rfl
    | some members =>
      have values := mapM_eq_of_forall₂ (members.imp fun r r' here =>
        have rows : Scope.AgreeOn names (.ofRow r) (.ofRow r') := here.ofRow
        ih rows named)
      simp only [values]

theorem operand_agree {scope scope' : Scope} {e : Expression} (agree : scope.AgreeOn names scope')
    (named : e.columnNames true ⊆ names) : e.operand scope = e.operand scope' := by
  rw [operand, operand, evaluate_agree agree named]

end Expression

theorem Condition.truth_agree {m : Type → Type} [Monad m] [MonadLiftT (Except QueryError) m]
    (program : String → m NamePattern.Program) {scope scope' : Scope} {c : Condition}
    (agree : scope.AgreeOn names scope') (named : c.columnNames ⊆ names) :
    c.truth program scope = c.truth program scope' := by
  induction c with
  | compare op l r =>
    obtain ⟨namedLeft, namedRight⟩ := List.append_subset.mp named
    rw [truth, truth, Expression.operand_agree agree namedLeft,
      Expression.operand_agree agree namedRight]
  | between e low high =>
    obtain ⟨namedOperand, namedBounds⟩ := List.append_subset.mp named
    obtain ⟨namedLow, namedHigh⟩ := List.append_subset.mp namedBounds
    rw [truth, truth, Expression.operand_agree agree namedOperand,
      Expression.operand_agree agree namedLow, Expression.operand_agree agree namedHigh]
  | like e _ | isNull e => rw [truth, truth, Expression.operand_agree agree named]
  | not c ih => rw [truth, truth, ih named]
  | and l r left right | or l r left right =>
    obtain ⟨namedLeft, namedRight⟩ := List.append_subset.mp named
    rw [truth, truth, left namedLeft, right namedRight]

theorem Condition.evaluate_agree {scope scope' : Scope} {c : Condition}
    (agree : scope.AgreeOn names scope') (named : c.columnNames ⊆ names) :
    c.evaluate scope = c.evaluate scope' :=
  truth_agree Like.program agree named

namespace Scope

/-- The names of the select list stand for expressions whose names are among those agreed on. -/
theorem agree_ofAliasedRow {columns : List OutputColumn} {r r' : Row} (agree : r.AgreeOn names r')
    (selected : ∀ c ∈ columns, c.expression.columnNames true ⊆ names) :
    AgreeOn names (.ofAliasedRow columns r) (.ofAliasedRow columns r') := by
  refine ⟨fun name mem => ?_, .none⟩
  unfold ofAliasedRow
  simp only [agree name mem]
  split
  · rfl
  · split
    · rename_i c first
      have here := List.mem_of_find?_eq_some first
      rw [Expression.evaluate_agree agree.ofRow (selected c here)]
    · rfl

theorem agree_ofGroup (columns : List OutputColumn) (outputs : List Value) {rows rows' : List Row}
    (agree : List.Forall₂ (Row.AgreeOn names) rows rows') :
    AgreeOn names (.ofGroup columns outputs rows) (.ofGroup columns outputs rows') := by
  refine ⟨fun name mem => ?_, .some agree⟩
  have first : rows.head?.bind (·.get? name) = rows'.head?.bind (·.get? name) := by
    cases agree with
    | nil => rfl
    | cons here _ => exact here name mem
  simp only [ofGroup, first]

end Scope

namespace Plan

structure Within (p : Plan) (names : List String) : Prop where
  columns : ∀ c ∈ p.columns, c.expression.columnNames true ⊆ names
  filter : ∀ c ∈ p.statement.filter, c.columnNames ⊆ names
  groupBy : ∀ e ∈ p.statement.groupBy, e.columnNames true ⊆ names
  having : ∀ c ∈ p.statement.having, c.columnNames ⊆ names
  orderBy : ∀ item ∈ p.statement.orderBy, item.expression.columnNames true ⊆ names

theorem within_columnNames {p : Plan}
    (explicit : ∀ c ∈ p.statement.columns, c.expression ≠ .wildcard) :
    p.Within p.statement.columnNames where
  columns c mem name named := by
    obtain ⟨own, inside, expanded⟩ := List.mem_flatMap.mp mem
    have same : c = own := by
      unfold expand at expanded
      split at expanded
      · rename_i all
        exact absurd all (explicit own inside)
      · exact List.mem_singleton.mp expanded
    subst same
    simp only [Statement.columnNames, List.mem_append, List.mem_flatMap]
    exact .inl (.inl (.inl (.inl ⟨c, inside, named⟩)))
  filter c mem name named := by
    simp only [Statement.columnNames, List.mem_append, List.mem_flatMap]
    exact .inl (.inl (.inl (.inr ⟨c, Option.mem_toList.mpr mem, named⟩)))
  groupBy e mem name named := by
    simp only [Statement.columnNames, List.mem_append, List.mem_flatMap]
    exact .inl (.inl (.inr ⟨e, mem, named⟩))
  having c mem name named := by
    simp only [Statement.columnNames, List.mem_append, List.mem_flatMap]
    exact .inl (.inr ⟨c, Option.mem_toList.mpr mem, named⟩)
  orderBy item mem name named := by
    simp only [Statement.columnNames, List.mem_append, List.mem_flatMap]
    exact .inr ⟨item, mem, named⟩

variable {p : Plan} (within : p.Within names) {r r' : Row} (agree : r.AgreeOn names r')

include within agree

theorem Within.passes_agree : p.passes r = p.passes r' := by
  unfold passes
  split
  · rename_i c filter
    exact Condition.evaluate_agree (Scope.agree_ofAliasedRow agree within.columns)
      (within.filter c filter)
  · rfl

theorem Within.project_agree : p.project r = p.project r' :=
  mapM_congr fun c mem => Expression.evaluate_agree agree.ofRow (within.columns c mem)

theorem Within.groupKey_agree : p.groupKey r = p.groupKey r' :=
  mapM_congr fun e mem =>
    Expression.evaluate_agree (Scope.agree_ofAliasedRow agree within.columns) (within.groupBy e mem)

omit agree in
theorem Within.sortKeys_agree {scope scope' : Scope} (agree : scope.AgreeOn names scope')
    (values : List Value) : p.sortKeys values scope = p.sortKeys values scope' := by
  refine mapM_congr fun item mem => ?_
  have same := Expression.evaluate_agree agree (within.orderBy item mem)
  unfold sortKey
  split
  · rfl
  · rename_i q name column
    rw [column] at same
    split
    · rfl
    · exact same
  · exact same

theorem Within.plainRow_agree : p.plainRow r = p.plainRow r' := by
  unfold plainRow
  simp only [within.project_agree agree,
    within.sortKeys_agree (Scope.agree_ofAliasedRow agree within.columns)]

omit agree in
theorem Within.groupRow_agree {g g' : Group} (agree : List.Forall₂ (Row.AgreeOn names) g.rows g'.rows) :
    p.groupRow g = p.groupRow g' := by
  have values : (p.columns.mapM fun c => c.expression.evaluate (.ofGroup p.columns [] g.rows)) =
      p.columns.mapM fun c => c.expression.evaluate (.ofGroup p.columns [] g'.rows) :=
    mapM_congr fun c mem =>
      Expression.evaluate_agree (Scope.agree_ofGroup p.columns [] agree) (within.columns c mem)
  have scopes (outputs : List Value) := Scope.agree_ofGroup p.columns outputs agree
  unfold groupRow
  simp only [values, within.sortKeys_agree (scopes _)]
  refine bind_congr fun outputs => ?_
  split
  · rename_i c having
    simp only [Condition.evaluate_agree (scopes outputs) (within.having c having)]
  · rfl

end Plan

end PlainTables
