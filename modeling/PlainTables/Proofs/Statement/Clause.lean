import PlainTables.Proofs.Statement.Condition

/-!
# Reading written clauses

Every clause is read back in front of the clauses that may come after it, and a clause that is left
out is not found in them.
-/

namespace PlainTables.Grammar

open Reader Lexis
open Token (join tail word enclose commas)

variable {rest : List Token} (style : Style)

/-- What is left of the statement starts with one of the words, or is nothing. -/
def Follows (words : List String) (rest : List Token) : Prop :=
  rest = [] ∨ ∃ w : Keyword, rest.head? = some (.keyword w) ∧ w.val ∈ words

theorem Follows.nil (words : List String) : Follows words [] := .inl rfl

theorem Follows.keyword_ne {words : List String} (follows : Follows words rest) {w : Keyword}
    (other : w.val ∉ words) : rest.head? ≠ some (.keyword w) := by
  rcases follows with rfl | ⟨v, first, mem⟩
  · simp
  · rw [first]
    intro same
    obtain rfl : v = w := by simpa using same
    exact other mem

theorem Follows.ne {words : List String} (follows : Follows words rest) {token : Token}
    (symbol : ∀ w, token ≠ .keyword w) : rest.head? ≠ some token := by
  rcases follows with rfl | ⟨v, first, _⟩
  · simp
  · rw [first]
    exact fun same => symbol v (Option.some.inj same).symm

theorem Follows.optional {α : Type} {words : List String} (follows : Follows words rest)
    (w : Keyword) (tokens : α → List Token) (starts : ∀ a, (tokens a).head? = some (.keyword w))
    (a? : Option α) : Follows (w.val :: words) (Statement.optionalTokens tokens a? ++ rest) := by
  cases a? with
  | none =>
    rcases follows with rfl | ⟨v, first, mem⟩
    · exact .inl rfl
    · exact .inr ⟨v, first, List.mem_cons_of_mem _ mem⟩
  | some a =>
    refine .inr ⟨w, ?_, List.mem_cons_self⟩
    rw [Statement.optionalTokens, List.head?_append, starts]
    rfl

theorem Follows.list {α : Type} {words : List String} (follows : Follows words rest)
    (w : Keyword) (more : List Token) (tokens : α → List Token) (items : List α) :
    Follows (w.val :: words)
      (Statement.listTokens (.keyword w :: more) tokens items ++ rest) := by
  cases items with
  | nil =>
    rcases follows with rfl | ⟨v, first, mem⟩
    · exact .inl rfl
    · exact .inr ⟨v, first, List.mem_cons_of_mem _ mem⟩
  | cons item items => exact .inr ⟨w, rfl, List.mem_cons_self⟩

/-! ## Lists -/

theorem commas_cons {α : Type} (tokens : α → List Token) (x : α) (xs : List α) :
    commas ((x :: xs).map tokens) = tokens x ++ xs.flatMap fun y => Token.comma :: tokens y := by
  induction xs generalizing x with
  | nil => simp [commas]
  | cons y ys ih =>
    have parts : commas ((x :: y :: ys).map tokens) =
        tokens x ++ (.comma :: commas ((y :: ys).map tokens)) := by
      simp [commas, List.intercalate_cons_cons]
    rw [parts, ih, List.flatMap_cons, List.cons_append]

/-- Items with commas between them are read back if each of them is, before a comma and at the end. -/
theorem separated_tokens {α : Type} {item : Reader α} {tokens : α → List Token} {items : List α}
    (nonempty : items ≠ [])
    (each : ∀ x ∈ items, ∀ r, r = rest ∨ r.head? = some .comma →
      item (join (tokens x ++ r)) = .ok (x, join r))
    (ends : rest.head? ≠ some .comma) :
    separated (spaced (char ',')) item (join (commas (items.map tokens) ++ rest)) =
      .ok (items, join rest) := by
  obtain ⟨first, others, rfl⟩ := List.exists_cons_of_ne_nil nonempty
  have behind (xs : List α) :
      (xs.flatMap fun y => Token.comma :: tokens y) ++ rest = rest ∨
        ((xs.flatMap fun y => Token.comma :: tokens y) ++ rest).head? = some .comma := by
    cases xs with
    | nil => exact .inl rfl
    | cons x xs => exact .inr rfl
  have each' : ∀ x ∈ others, ∀ xs : List α, (do spaced (char ','); item)
      (join ((Token.comma :: tokens x) ++ ((xs.flatMap fun y => Token.comma :: tokens y) ++ rest))) =
        .ok (x, join ((xs.flatMap fun y => Token.comma :: tokens y) ++ rest)) := by
    intro x mem xs
    rw [List.cons_append, bind_of_ok (spaced_char .comma rfl _)]
    exact each x (List.mem_cons_of_mem _ mem) _ (behind xs)
  have ended : Misses (do spaced (char ','); item) (join rest) :=
    (spaced_misses (char_misses_join rfl ends)).bind
  have many := many_of_items (fun _ => List.cons_ne_nil _ _) each' ended
  rw [commas_cons, List.append_assoc, separated,
    bind_of_ok (each first List.mem_cons_self _ (behind others)), bind_of_ok many]
  rfl

/-! ## Select list -/

/-- What may stand behind a name that is left out. -/
def EndsName (rest : List Token) : Prop :=
  rest = [] ∨ rest.head? = some .comma ∨
    ∃ w : Keyword, rest.head? = some (.keyword w) ∧ w.val ≠ "AS"

theorem Follows.endsName {words : List String} (follows : Follows words rest)
    (noAs : "AS" ∉ words) : EndsName rest := by
  rcases follows with rfl | ⟨w, first, mem⟩
  · exact .inl rfl
  · exact .inr (.inr ⟨w, first, fun same => noAs (same ▸ mem)⟩)

theorem EndsName.head?_ne {token : Token} (ends : EndsName rest) (notComma : token ≠ .comma)
    (notWord : ∀ w : Keyword, w.val ≠ "AS" → token ≠ .keyword w) : rest.head? ≠ some token := by
  rcases ends with rfl | comma | ⟨w, first, notAs⟩
  · simp
  · rw [comma]
    exact fun same => notComma (Option.some.inj same).symm
  · rw [first]
    exact fun same => notWord w notAs (Option.some.inj same).symm

theorem newName_tokens (alias? : Option String) (ends : EndsName rest) :
    newName (join (style.newName alias? ++ rest)) = .ok (alias?, join rest) := by
  cases alias? with
  | none =>
    have noWord : Misses (spaced (keyword "AS")) (join rest) := by
      refine spaced_keyword_misses (w := ⟨"AS", by decide⟩) (ends.head?_ne (by simp) ?_)
      rintro w notAs same
      exact notAs (congrArg Subtype.val (Token.keyword.inj same)).symm
    have noName : Misses (spaced identifier) (join rest) := by
      refine spaced_misses (identifier_misses ?_)
      rcases ends with empty | comma | ⟨w, first, _⟩
      · exact .inl empty
      · exact .inr (.inl comma)
      · exact .inr (.inr ⟨w, first⟩)
    exact optional_of_misses (Misses.bind_of_ok (optional_of_misses noWord) noName)
  | some name =>
    have taken := spaced_token (identifier_name name rest)
    rw [Style.newName]
    split
    · refine optional_of_ok ?_
      rw [List.cons_append, bind_of_ok (optional_of_ok (keyword_join ⟨"AS", by decide⟩ _))]
      exact taken
    · have noWord : Misses (spaced (keyword "AS")) (join (.name name :: rest)) :=
        spaced_keyword_misses (w := ⟨"AS", by decide⟩) (by simp)
      refine optional_of_ok ?_
      rw [List.singleton_append, bind_of_ok (optional_of_misses noWord)]
      exact taken

theorem newName_head?_ne_plus (alias? : Option String) (ends : EndsName rest) :
    (style.newName alias? ++ rest).head? ≠ some .plus := by
  cases alias? with
  | none => exact ends.head?_ne (by simp) (by simp)
  | some name =>
    rw [Style.newName]
    split <;> simp

/-- A column of the select list is read back; if it is a sum it needs its name. -/
theorem outputColumn_tokens {c : OutputColumn} (printable : c.expression.Printable)
    (named : c.expression.isSum = true → c.alias? ≠ none) (ends : EndsName rest) :
    outputColumn (join (c.tokens style ++ rest)) = .ok (c, join rest) := by
  obtain ⟨e, alias?⟩ := c
  have operand := expression_tokens printable (style.newName alias? ++ rest)
    (newName_head?_ne_plus style alias? ends)
  have column : (do
      let e ← expression
      return (⟨e, ← newName⟩ : OutputColumn)) (join (e.tokens ++ (style.newName alias? ++ rest))) =
        .ok (⟨e, alias?⟩, join rest) := by
    rw [bind_of_ok operand, bind_of_ok (newName_tokens style alias? ends)]
    rfl
  rw [OutputColumn.tokens, List.append_assoc, outputColumn]
  simp only [column]
  split
  · next same =>
    cases same
    exact absurd rfl (named rfl)
  · rfl

theorem selectList_tokens {columns : List OutputColumn} (ends : EndsName rest)
    (noComma : rest.head? ≠ some .comma)
    (printable : columns = [⟨.wildcard, none⟩] ∨ columns ≠ [] ∧ ∀ c ∈ columns,
      c.expression.Printable ∧ (c.expression.isSum = true → c.alias? ≠ none)) :
    selectList (join (commas (columns.map (·.tokens style)) ++ rest)) = .ok (columns, join rest) := by
  rcases printable with rfl | ⟨nonempty, printable⟩
  · refine orElse_of_ok ?_
    have star := spaced_char (c := '*') .star rfl rest
    exact bind_of_ok star
  · have noStar : Misses (spaced (char '*'))
        (join (commas (columns.map (·.tokens style)) ++ rest)) := by
      obtain ⟨first, others, rfl⟩ := List.exists_cons_of_ne_nil nonempty
      obtain ⟨token, tokens, spelling, starts⟩ := (printable first List.mem_cons_self).1.starts
      refine spaced_misses (char_misses_join rfl ?_)
      rw [commas_cons, OutputColumn.tokens, spelling]
      cases starts <;> simp
    rw [selectList, orElse_of_misses noStar.bind]
    refine separated_tokens nonempty ?_ noComma
    intro c mem r behind
    refine outputColumn_tokens style (printable c mem).1 (printable c mem).2 ?_
    rcases behind with rfl | comma
    · exact ends
    · exact .inr (.inl comma)

/-! ## Other clauses -/

theorem fromClause_tokens {words : List String} (from? : Option NamedTable)
    (follows : Follows words rest) (noAs : "AS" ∉ words) (noFrom : "FROM" ∉ words) :
    fromClause (join (Statement.optionalTokens
        (fun t => word "FROM" :: .name t.name :: style.newName t.alias?) from? ++ rest)) =
      .ok (from?, join rest) := by
  cases from? with
  | none =>
    exact optional_of_misses
      (spaced_keyword_misses (w := ⟨"FROM", by decide⟩) (follows.keyword_ne noFrom)).bind
  | some t =>
    have table := spaced_token (tableName_name t.name (style.newName t.alias? ++ rest))
    refine optional_of_ok ?_
    refine (bind_of_ok (keyword_join ⟨"FROM", by decide⟩ _)).trans ?_
    refine (bind_of_ok table).trans ?_
    exact bind_of_ok (newName_tokens style t.alias? (follows.endsName noAs))

theorem conditionClause_tokens {words : List String} (w : Keyword) {condition : Option Condition}
    (printable : ∀ c ∈ condition, c.Printable) (follows : Follows words rest)
    (noWord : w.val ∉ words) (noAnd : "AND" ∉ words) (noOr : "OR" ∉ words) :
    conditionClause w.val (join (Statement.optionalTokens
        (fun c => .keyword w :: c.tokens) condition ++ rest)) = .ok (condition, join rest) := by
  cases condition with
  | none => exact optional_of_misses (spaced_keyword_misses (follows.keyword_ne noWord)).bind
  | some c =>
    refine optional_of_ok ?_
    refine (bind_of_ok (keyword_join w (c.tokens ++ rest))).trans ?_
    exact condition_tokens (printable c rfl) (follows.ne (by simp))
      (follows.keyword_ne (w := ⟨"AND", by decide⟩) noAnd)
      (follows.keyword_ne (w := ⟨"OR", by decide⟩) noOr)

theorem groupByClause_tokens {words : List String} {items : List Expression}
    (printable : ∀ e ∈ items, e.Printable) (follows : Follows words rest)
    (noGroup : "GROUP" ∉ words) :
    groupByClause (join (Statement.listTokens [word "GROUP", word "BY"] Expression.tokens items ++
        rest)) = .ok (items, join rest) := by
  cases items with
  | nil =>
    have noWord : Misses (spaced (keyword "GROUP")) (join rest) :=
      spaced_keyword_misses (w := ⟨"GROUP", by decide⟩) (follows.keyword_ne noGroup)
    exact bind_of_ok (optional_of_misses noWord.bind)
  | cons e items =>
    have each : ∀ x ∈ e :: items, ∀ r, r = rest ∨ r.head? = some .comma →
        expression (join (x.tokens ++ r)) = .ok (x, join r) := by
      intro x mem r behind
      refine expression_tokens (printable x mem) r ?_
      rcases behind with rfl | comma
      · exact follows.ne (by simp)
      · simp [comma]
    have list := separated_tokens (List.cons_ne_nil e items) each (follows.ne (by simp))
    refine bind_of_ok (optional_of_ok ?_)
    refine (bind_of_ok (keyword_join ⟨"GROUP", by decide⟩ _)).trans ?_
    exact (bind_of_ok (keyword_join ⟨"BY", by decide⟩ _)).trans list

theorem orderItem_tokens {o : OrderItem} (printable : o.expression.Printable)
    (noPlus : rest.head? ≠ some .plus) (noAsc : rest.head? ≠ some (word "ASC"))
    (noDesc : rest.head? ≠ some (word "DESC")) :
    orderItem (join (o.tokens style ++ rest)) = .ok (o, join rest) := by
  obtain ⟨e, order⟩ := o
  have noPlus' : (style.order order ++ rest).head? ≠ some .plus := by
    cases order with
    | ascending =>
      rw [Style.order]
      split
      · simp
      · exact noPlus
    | descending => simp [Style.order]
  have operand := expression_tokens printable (style.order order ++ rest) noPlus'
  have orderRead : ∃ order?, optional
      (orElse (do spaced (keyword "ASC"); return SortOrder.ascending)
        (do spaced (keyword "DESC"); return SortOrder.descending))
      (join (style.order order ++ rest)) = .ok (order?, join rest) ∧
        order?.getD .ascending = order := by
    cases order with
    | ascending =>
      rw [Style.order]
      split
      · exact ⟨some .ascending, optional_of_ok (orElse_of_ok
          (bind_of_ok (keyword_join ⟨"ASC", by decide⟩ rest))), rfl⟩
      · have missing : Misses (spaced (keyword "ASC")) (join rest) :=
          spaced_keyword_misses (w := ⟨"ASC", by decide⟩) noAsc
        have missing' : Misses (spaced (keyword "DESC")) (join rest) :=
          spaced_keyword_misses (w := ⟨"DESC", by decide⟩) noDesc
        exact ⟨none, optional_of_misses (missing.bind.orElse missing'.bind), rfl⟩
    | descending =>
      have missing : Misses (spaced (keyword "ASC")) (join (word "DESC" :: rest)) :=
        spaced_keyword_misses (w := ⟨"ASC", by decide⟩) (by simp)
      exact ⟨some .descending, optional_of_ok ((orElse_of_misses missing.bind).trans
        (bind_of_ok (keyword_join ⟨"DESC", by decide⟩ rest))), rfl⟩
  obtain ⟨order?, taken, same⟩ := orderRead
  rw [OrderItem.tokens, List.append_assoc, orderItem, bind_of_ok operand, bind_of_ok taken, same]
  rfl

theorem orderByClause_tokens {words : List String} {items : List OrderItem}
    (printable : ∀ o ∈ items, o.expression.Printable) (follows : Follows words rest)
    (noOrder : "ORDER" ∉ words) (noAsc : "ASC" ∉ words) (noDesc : "DESC" ∉ words) :
    orderByClause (join (Statement.listTokens [word "ORDER", word "BY"] (·.tokens style) items ++
        rest)) = .ok (items, join rest) := by
  cases items with
  | nil =>
    have noWord : Misses (spaced (keyword "ORDER")) (join rest) :=
      spaced_keyword_misses (w := ⟨"ORDER", by decide⟩) (follows.keyword_ne noOrder)
    exact bind_of_ok (optional_of_misses noWord.bind)
  | cons o items =>
    have each : ∀ x ∈ o :: items, ∀ r, r = rest ∨ r.head? = some .comma →
        orderItem (join (x.tokens style ++ r)) = .ok (x, join r) := by
      intro x mem r behind
      rcases behind with rfl | comma
      · exact orderItem_tokens style (printable x mem) (follows.ne (by simp))
          (follows.keyword_ne (w := ⟨"ASC", by decide⟩) noAsc)
          (follows.keyword_ne (w := ⟨"DESC", by decide⟩) noDesc)
      · exact orderItem_tokens style (printable x mem) (by simp [comma]) (by simp [comma])
          (by simp [comma])
    have list := separated_tokens (List.cons_ne_nil o items) each (follows.ne (by simp))
    refine bind_of_ok (optional_of_ok ?_)
    refine (bind_of_ok (keyword_join ⟨"ORDER", by decide⟩ _)).trans ?_
    exact (bind_of_ok (keyword_join ⟨"BY", by decide⟩ _)).trans list

theorem countClause_tokens {words : List String} (w : Keyword) (count : Option UInt64)
    (follows : Follows words rest) (noWord : w.val ∉ words) :
    countClause w.val (join (Statement.optionalTokens
        (fun n => [.keyword w, .count n]) count ++ rest)) = .ok (count, join rest) := by
  cases count with
  | none => exact optional_of_misses (spaced_keyword_misses (follows.keyword_ne noWord)).bind
  | some n =>
    refine optional_of_ok ?_
    refine (bind_of_ok (keyword_join w (.count n :: rest))).trans ?_
    exact spaced_token (rowCount_count n rest)

end PlainTables.Grammar
