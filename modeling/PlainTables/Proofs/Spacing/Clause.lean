import PlainTables.Proofs.Spacing.Grammar

/-!
# Conditions and clauses with more blanks between tokens

Conditions nest by parentheses, and the clauses follow each other up to the numbers of rows, behind which the text
may go on at once.
-/

namespace PlainTables.Spacing

open Lexis Reader Grammar

/-! ## Conditions -/

theorem notWord_alike : Alike Next (fun _ => Next) notWord notWord :=
  (keyword_next (by decide)).optional fun _ _ => id

theorem predicateTail_alike (left : Expression) :
    Alike Next (fun _ => Next) (predicateTail left) (predicateTail left) := by
  refine Alike.orElse ?_ (Alike.orElse ?_ ?_)
  · refine (keyword_next (by decide)).bind fun _ => notWord_alike.bind fun negated => ?_
    exact (keyword_next (by decide)).bind fun _ => .pure _
  · refine notWord_alike.bind fun negated => ?_
    refine (keyword_next (by decide)).bind fun _ => ?_
    refine expression_next.bind fun low => ?_
    refine (keyword_next (by decide)).bind fun _ => ?_
    exact expression_next.bind fun high => .pure _
  · refine notWord_alike.bind fun negated => ?_
    exact (keyword_next (by decide)).bind fun _ =>
      (token_next textLiteral_alike).map

theorem comparisonTail_alike (left : Expression) :
    Alike Next (fun _ => Next) (comparisonTail left) (comparisonTail left) := by
  have operator : Alike Near (fun op => Trimmed (Compared op)) (spaced comparison)
      (spaced comparison) := spaced_alike spaces_near comparison_alike spaces_compared
  have operand (op : Comparison) : Alike (Trimmed (Compared op)) (fun _ => Next) expression
      expression := expression_alike.of_imp fun _ _ related => near_of_compared related.1
  have text : Alike (Trimmed (Compared .eq)) (fun _ => Next) (spaced bareText) (spaced bareText) :=
    spaced_alike ((spaces_compared .eq).of_imp fun _ _ related => related.1) bareText_alike
      fun _ => spaces_near
  refine (operator.of_imp fun _ _ => near_of_next).bind fun op => ?_
  cases op with
  | eq => exact (text.map.orElse (operand .eq)).bind fun right => .pure _
  | ne | lt | gt | le | ge => exact (operand _).map

theorem predicate_alike : Alike Near (fun _ => Next) predicate predicate :=
  expression_alike.bind fun left => (predicateTail_alike left).orElse (comparisonTail_alike left)

theorem below_keyword {k : String} (capitals : Capitals k)
    (n n' : Nat) : Alike (Below (n + 1) (n' + 1) Near) (fun _ => Below n n' Near)
      (spaced (keyword k)) (spaced (keyword k)) := by
  have takes : Takes (· ≠ []) (spaced (keyword k)) := by
    refine takes_spaced_nonempty (.bind_nonempty (.tag fun t same => ?_) fun _ =>
      Closed.joins.notFollowedBy isWordChar)
    rintro rfl
    exact capitals.1 same.symm
  exact ((spaced_keyword capitals).mono (fun _ _ => cut_of_near)
    fun _ _ _ => near_of_next).below_succ takes takes n n'

section

variable {n n' : Nat} {p p' q q' : Reader Condition}

/-- A condition is read in both texts, however deep, where they are shorter than the bounds. -/
abbrev Followed (n n' : Nat) (p p' : Reader Condition) : Prop :=
  Alike (Below n n' Near) (fun _ => Next) p p'

theorem joined_alike {k : String} (join : Condition → Condition → Condition)
    (capitals : Capitals k) (takes : Takes Closed p)
    (takes' : Takes Closed p') (first : Followed (n + 1) (n' + 1) p p') (right : Followed n n' q q') :
    Followed (n + 1) (n' + 1)
      (do
        let first ← p
        match ← optional (do spaced (keyword k); q) with
        | some right => return join first right
        | none => return first)
      (do
        let first ← p'
        match ← optional (do spaced (keyword k); q') with
        | some right => return join first right
        | none => return first) := by
  refine (first.stays_below takes takes').bind fun first => ?_
  have behind : Alike (Below (n + 1) (n' + 1) Next) (fun _ => Next)
      (optional (do spaced (keyword k); q)) (optional (do spaced (keyword k); q')) := by
    refine Alike.optional (.bind ?_ fun _ => right) fun _ _ related => related.1
    exact (below_keyword capitals n n').of_imp fun _ _ related =>
      ⟨near_of_next related.1, related.2⟩
  refine behind.bind fun right? => ?_
  cases right? with
  | none => exact .pure first
  | some right => exact .pure (join first right)

theorem negation_alike {d d' : Nat} (inner : Followed n n' (negation d) (negation d'))
    (primary : Followed (n + 1) (n' + 1) (primary d) (primary d')) :
    Followed (n + 1) (n' + 1) (negation (d + 1)) (negation (d' + 1)) :=
  Alike.orElse ((below_keyword (by decide) n n').bind fun _ => inner.map) primary

theorem primary_alike {d d' : Nat} (inner : Followed n n' (disjunction d) (disjunction d')) :
    Followed (n + 1) (n' + 1) (primary (d + 1)) (primary (d' + 1)) := by
  have opening : Alike (Below (n + 1) (n' + 1) Near) (fun _ => Below n n' Near)
      (spaced (char '(')) (spaced (char '(')) := by
    have takes := takes_spaced_nonempty (takes_char_nonempty '(')
    exact ((spaced_symbol (by decide)).mono (fun _ _ => cut_of_near)
      fun _ _ _ => near_of_next).below_succ takes takes n n'
  have closing : Alike Next (fun _ => Next) (spaced (char ')')) (spaced (char ')')) :=
    symbol_next (by decide)
  refine Alike.orElse (opening.bind fun _ => inner.bind fun c => closing.bind fun _ => .pure c) ?_
  exact predicate_alike.of_imp fun _ _ related => related.1

end

structure ConditionsFollowed (n n' : Nat) : Prop where
  disjunction {d d' : Nat} : 4 * n ≤ d → 4 * n' ≤ d' →
    Followed n n' (disjunction d) (disjunction d')
  conjunction {d d' : Nat} : 4 * n ≤ d + 1 → 4 * n' ≤ d' + 1 →
    Followed n n' (conjunction d) (conjunction d')
  negation {d d' : Nat} : 4 * n ≤ d + 2 → 4 * n' ≤ d' + 2 →
    Followed n n' (negation d) (negation d')

theorem followed_zero {n n' : Nat} (none : n = 0 ∨ n' = 0) {p p' : Reader Condition} :
    Followed n n' p p' := by
  rintro s s' ⟨-, short, short'⟩
  rcases none with rfl | rfl
  · exact absurd short (Nat.not_lt_zero _)
  · exact absurd short' (Nat.not_lt_zero _)

/-- By induction on the length, as every step down to another condition takes a character. -/
theorem conditionsFollowed (n n' : Nat) : ConditionsFollowed n n' := by
  induction n generalizing n' with
  | zero => exact ⟨fun _ _ => followed_zero (.inl rfl), fun _ _ => followed_zero (.inl rfl),
      fun _ _ => followed_zero (.inl rfl)⟩
  | succ n ih =>
    cases n' with
    | zero => exact ⟨fun _ _ => followed_zero (.inr rfl), fun _ _ => followed_zero (.inr rfl),
        fun _ _ => followed_zero (.inr rfl)⟩
    | succ n' =>
      obtain ⟨disjunctions, conjunctions, negations⟩ := ih n'
      have primary {d d' : Nat} (deep : 4 * (n + 1) ≤ d + 3) (deep' : 4 * (n' + 1) ≤ d' + 3) :
          Followed (n + 1) (n' + 1) (primary d) (primary d') := by
        obtain ⟨d, rfl⟩ := Nat.exists_eq_add_one_of_ne_zero (n := d) (by omega)
        obtain ⟨d', rfl⟩ := Nat.exists_eq_add_one_of_ne_zero (n := d') (by omega)
        exact primary_alike (disjunctions (by omega) (by omega))
      have negation {d d' : Nat} (deep : 4 * (n + 1) ≤ d + 2) (deep' : 4 * (n' + 1) ≤ d' + 2) :
          Followed (n + 1) (n' + 1) (negation d) (negation d') := by
        obtain ⟨d, rfl⟩ := Nat.exists_eq_add_one_of_ne_zero (n := d) (by omega)
        obtain ⟨d', rfl⟩ := Nat.exists_eq_add_one_of_ne_zero (n := d') (by omega)
        exact negation_alike (negations (by omega) (by omega)) (primary (by omega) (by omega))
      have conjunction {d d' : Nat} (deep : 4 * (n + 1) ≤ d + 1) (deep' : 4 * (n' + 1) ≤ d' + 1) :
          Followed (n + 1) (n' + 1) (conjunction d) (conjunction d') := by
        obtain ⟨d, rfl⟩ := Nat.exists_eq_add_one_of_ne_zero (n := d) (by omega)
        obtain ⟨d', rfl⟩ := Nat.exists_eq_add_one_of_ne_zero (n := d') (by omega)
        exact joined_alike .and (by decide) (takes_conditions d).2.2.1
          (takes_conditions d').2.2.1 (negation (by omega) (by omega))
          (conjunctions (by omega) (by omega))
      refine ⟨fun {d d'} deep deep' => ?_, conjunction, negation⟩
      obtain ⟨d, rfl⟩ := Nat.exists_eq_add_one_of_ne_zero (n := d) (by omega)
      obtain ⟨d', rfl⟩ := Nat.exists_eq_add_one_of_ne_zero (n := d') (by omega)
      exact joined_alike .or (by decide) (takes_conditions d).2.1
        (takes_conditions d').2.1 (conjunction (by omega) (by omega))
        (disjunctions (by omega) (by omega))

theorem condition_alike : Alike Next (fun _ => Next) condition condition := by
  intro s s' related
  exact (conditionsFollowed (s.length + 1) (s'.length + 1)).disjunction (by omega) (by omega) s s'
    ⟨near_of_next related, Nat.lt_succ_self _, Nat.lt_succ_self _⟩

/-! ## Clauses -/

theorem newName_alike : Alike Next (fun _ => Next) newName newName := by
  have name : Alike Next (fun _ => Next) (spaced identifier) (spaced identifier) :=
    token_next identifier_alike
  have word : Alike Next (fun _ => Next) (optional (spaced (keyword "AS")))
      (optional (spaced (keyword "AS"))) :=
    (keyword_next (by decide)).optional fun _ _ => id
  exact (word.bind fun _ => name).optional fun _ _ => id

theorem outputColumn_alike : Alike Next (fun _ => Next) outputColumn outputColumn := by
  have column : Alike Next (fun _ => Next) (do
      let e ← expression
      return ⟨e, ← newName⟩ : Reader OutputColumn) (do
      let e ← expression
      return ⟨e, ← newName⟩ : Reader OutputColumn) :=
    expression_next.bind fun e => newName_alike.map
  intro s s' related
  have same := column s s' related
  unfold outputColumn
  dsimp only
  generalize (do
      let e ← expression
      return ⟨e, ← newName⟩ : Reader OutputColumn) s = x at same
  generalize (do
      let e ← expression
      return ⟨e, ← newName⟩ : Reader OutputColumn) s' = x' at same
  cases same with
  | @ok column r r' left =>
    obtain ⟨e, alias?⟩ := column
    cases e with
    | add l r =>
      cases alias? with
      | none => exact .fatal
      | some name => exact .ok left
    | _ => exact .ok left
  | miss => exact .miss
  | fatal => exact .fatal

theorem selectList_alike : Alike Next (fun _ => Next) selectList selectList := by
  have star : Alike Next (fun _ => Next) (spaced (char '*')) (spaced (char '*')) :=
    symbol_next (by decide)
  exact (star.bind fun _ => .pure _).orElse (list_alike outputColumn_alike takes_outputColumn)

theorem fromClause_alike : Alike Next (fun _ => Next) fromClause fromClause := by
  have name : Alike Next (fun _ => Next) (spaced tableName) (spaced tableName) :=
    token_next tableName_alike
  refine Alike.optional ?_ fun _ _ => id
  exact (keyword_next (by decide)).bind fun _ =>
    name.bind fun name => newName_alike.map

theorem conditionClause_alike {k : String} (capitals : Capitals k) :
    Alike Next (fun _ => Next) (conditionClause k) (conditionClause k) :=
  ((keyword_next capitals).bind fun _ => condition_alike).optional fun _ _ => id

theorem groupByClause_alike : Alike Next (fun _ => Next) groupByClause groupByClause := by
  refine Alike.map (Alike.optional ?_ fun _ _ => id)
  exact (keyword_next (by decide)).bind fun _ =>
    (keyword_next (by decide)).bind fun _ =>
      list_alike expression_next takes_expression

theorem orderItem_alike : Alike Next (fun _ => Next) orderItem orderItem := by
  refine expression_next.bind fun e => Alike.map (Alike.optional ?_ fun _ _ => id)
  exact ((keyword_next (by decide)).bind fun _ => .pure _).orElse
    ((keyword_next (by decide)).bind fun _ => .pure _)

theorem orderByClause_alike : Alike Next (fun _ => Next) orderByClause orderByClause := by
  refine Alike.map (Alike.optional ?_ fun _ _ => id)
  exact (keyword_next (by decide)).bind fun _ =>
    (keyword_next (by decide)).bind fun _ =>
      list_alike orderItem_alike takes_orderItem

theorem countClause_alike {k : String} (capitals : Capitals k) :
    Alike (Trimmed Cut) (fun _ => Trimmed Cut) (countClause k) (countClause k) := by
  have count : Alike Next (fun _ => Trimmed Cut) (spaced rowCount) (spaced rowCount) :=
    spaced_alike (spaces_cut.of_imp fun _ _ => cut_of_next)
      (rowCount_alike.of_imp fun _ _ related => related.start) fun _ => spaces_cut
  refine Alike.optional ?_ fun _ _ => id
  exact ((spaced_keyword capitals).of_imp fun _ _ related => related.1).bind fun _ => count

theorem statement_alike : Alike Near (fun _ => Trimmed Cut) statement statement := by
  refine ((spaced_keyword (by decide)).of_imp fun _ _ => cut_of_near).bind fun _ => ?_
  refine (Alike.optional (keyword_next (by decide)) fun _ _ => id).bind
    fun distinct => ?_
  refine selectList_alike.bind fun columns => fromClause_alike.bind fun from? => ?_
  refine (conditionClause_alike (by decide)).bind fun filter => ?_
  refine groupByClause_alike.bind fun groupBy => ?_
  refine (conditionClause_alike (by decide)).bind fun having => ?_
  refine orderByClause_alike.bind fun orderBy => ?_
  refine ((countClause_alike (by decide)).of_imp fun _ _ => trimmedCut_of_next).bind
    fun limit => ?_
  exact (countClause_alike (by decide)).bind fun offset => .pure _

end PlainTables.Spacing
