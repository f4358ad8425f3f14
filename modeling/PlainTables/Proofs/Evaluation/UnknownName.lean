import PlainTables.Proofs.Evaluation.Failure

/-!
# Unknown names

What is evaluated fails for an unknown name only if its scope has no value for the name: conditions
never do, and an expression does for its own names.
-/

namespace PlainTables

/-- If the computation fails for an unknown name, the name is one of these. -/
def AsksFor {α : Type} (names : String → Prop) (x : Except QueryError α) : Prop :=
  ∀ name, x = .error (.unknownColumn name) → names name

def KnowsNames {α : Type} (x : Except QueryError α) : Prop :=
  AsksFor (fun _ => False) x

/-- The errors for other names, and those of other kinds, are not asked about. -/
theorem asksFor_iff {α : Type} {names : String → Prop} {x : Except QueryError α} :
    AsksFor names x ↔ FailsOnly (fun e => ∀ name, e = .unknownColumn name → names name) x := by
  constructor
  · rintro asks _ fails name rfl
    exact asks name fails
  · intro fails name failed
    exact fails _ failed name rfl

namespace AsksFor

variable {α β : Type} {names names' : String → Prop} {x : Except QueryError α}

theorem mono (asks : AsksFor names x) (fewer : ∀ name, names name → names' name) :
    AsksFor names' x :=
  fun name fails => fewer name (asks name fails)

theorem of_knows (knows : KnowsNames x) : AsksFor names x :=
  knows.mono fun _ => False.elim

theorem ok (a : α) : AsksFor names (.ok a) :=
  fun _ fails => nomatch fails

theorem bind {f : α → Except QueryError β} (first : AsksFor names x)
    (rest : ∀ a, x = .ok a → AsksFor names (f a)) : AsksFor names (x >>= f) :=
  asksFor_iff.mpr ((asksFor_iff.mp first).bind fun a result => asksFor_iff.mp (rest a result))

theorem map (f : α → β) (asks : AsksFor names x) : AsksFor names (x.map f) :=
  asksFor_iff.mpr ((asksFor_iff.mp asks).map f)

theorem mapM {f : α → Except QueryError β} {items : List α}
    (each : ∀ a ∈ items, AsksFor names (f a)) : AsksFor names (items.mapM f) :=
  asksFor_iff.mpr (FailsOnly.mapM fun a mem => asksFor_iff.mp (each a mem))

end AsksFor

namespace KnowsNames

variable {α : Type}

theorem of_ne {e : QueryError} (other : ∀ name, e ≠ .unknownColumn name) :
    KnowsNames (.error e : Except QueryError α) :=
  fun name fails => other name (Except.error.inj fails)

theorem of_isType {x : Except QueryError α} (fails : FailsOnly (·.isType) x) : KnowsNames x :=
  fun _ failed => nomatch fails _ failed

end KnowsNames

namespace Expression

theorem columnNames_false_subset (e : Expression) {name : String}
    (named : name ∈ e.columnNames false) : name ∈ e.columnNames true := by
  induction e with
  | column q own => exact named
  | add l r left right =>
    rcases List.mem_append.mp named with inLeft | inRight
    · exact List.mem_append_left _ (left inLeft)
    · exact List.mem_append_right _ (right inRight)
  | wildcard | literal | countRows | aggregate => cases named

/-- The expression needs a name that its scope has no value for, or that a row has none for over which
it aggregates. -/
def Misses (e : Expression) (scope : Scope) (name : String) : Prop :=
  (name ∈ e.columnNames false ∧ scope.lookup name = none) ∨
    ∃ rows, scope.group = some rows ∧ ∃ row ∈ rows, row.get? name = none ∧
      name ∈ e.columnNames true

theorem Misses.of_subset {e e' : Expression} {scope : Scope} {name : String}
    (misses : e.Misses scope name) (within : ∀ all, e.columnNames all ⊆ e'.columnNames all) :
    e'.Misses scope name := by
  rcases misses with ⟨named, absent⟩ | ⟨rows, group, row, mem, absent, named⟩
  · exact .inl ⟨within false named, absent⟩
  · exact .inr ⟨rows, group, row, mem, absent, within true named⟩

theorem asksFor_evaluate (e : Expression) (scope : Scope) :
    AsksFor (e.Misses scope) (e.evaluate scope) := by
  induction e generalizing scope with
  | wildcard => exact .of_knows (KnowsNames.of_ne (by simp))
  | column q own =>
    intro name fails
    rw [evaluate] at fails
    cases found : scope.lookup own with
    | some v =>
      rw [found] at fails
      cases fails
    | none =>
      rw [found] at fails
      cases fails
      exact .inl ⟨List.mem_cons_self, found⟩
  | literal v => exact .ok v
  | add l r left right =>
    have fromLeft (name : String) (misses : l.Misses scope name) : (add l r).Misses scope name :=
      misses.of_subset fun _ => List.subset_append_left _ _
    have fromRight (name : String) (misses : r.Misses scope name) : (add l r).Misses scope name :=
      misses.of_subset fun _ => List.subset_append_right _ _
    refine ((left scope).mono fromLeft).bind fun x _ => ?_
    refine ((right scope).mono fromRight).bind fun y _ => ?_
    exact .of_knows (.of_isType (x.failsOnly_add y))
  | countRows =>
    rw [evaluate]
    cases scope.group with
    | none => exact .of_knows (KnowsNames.of_ne (by simp))
    | some rows => exact .ok _
  | aggregate f argument inside =>
    rw [evaluate]
    cases group : scope.group with
    | none => exact .of_knows (KnowsNames.of_ne (by simp))
    | some rows =>
      refine (AsksFor.mapM fun row mem => (inside (.ofRow row)).mono ?_).bind fun vs _ =>
        .of_knows (.of_isType (f.failsOnly_apply _ _))
      -- within an aggregate there is no group, so only the row can miss the name
      rintro name (⟨named, absent⟩ | ⟨_, noGroup, _⟩)
      · exact .inr ⟨rows, group, row, mem, absent, columnNames_false_subset argument named⟩
      · cases noGroup

theorem knowsNames_operand (e : Expression) (scope : Scope) : KnowsNames (e.operand scope) := by
  unfold operand
  split
  · exact .ok _
  · exact .ok _
  · exact .ok _
  · rename_i loud _
    exact KnowsNames.of_ne fun name same => loud name same

end Expression

/-- A condition takes an operand with an unknown name for a missing value. -/
theorem Condition.knowsNames_evaluate (c : Condition) (scope : Scope) :
    KnowsNames (c.evaluate scope) :=
  asksFor_iff.mpr (c.failsOnly_of_operands (fun e => asksFor_iff.mp (e.knowsNames_operand scope))
    fun err type name unknown => by rw [unknown] at type; cases type)

theorem Plan.knowsNames_passes (p : Plan) (row : Row) : KnowsNames (p.passes row) := by
  unfold passes
  split
  · exact Condition.knowsNames_evaluate _ _
  · exact .ok _

end PlainTables
