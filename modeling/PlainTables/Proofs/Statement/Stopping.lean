import PlainTables.Proofs.Text.Reader
import PlainTables.Proofs.Text.Taking
import PlainTables.Statement.Grammar

/-!
# Where the reading of a statement ends

Every reader of the grammar ends within its text. Only a sum in the select list that is given no name stops the
whole reading, and what is left then is the text that starts with this sum.
-/

namespace PlainTables

open Reader

variable {fatal : List Char → Prop}

namespace Lexis

theorem stays_keyword (k : String) : Stays fatal (keyword k) :=
  (Stays.tag k).bind fun _ => .notFollowedBy isWordChar

theorem stays_word : Stays fatal word :=
  .filterMap ((Stays.satisfy _).bind fun _ => (Stays.takeWhile isWordChar).map)

theorem closeQuote?_suffix {q : Char} {s cs r : List Char} (closed : closeQuote? q s = some (cs, r)) :
    r <:+ s := by
  fun_induction closeQuote? q s generalizing cs r with
  | case1 => cases closed
  | case2 =>
    cases closed
    exact List.nil_suffix
  | case3 => cases closed
  | case4 s ih =>
    obtain ⟨⟨cs', r'⟩, inside, same⟩ := Option.map_eq_some_iff.mp closed
    cases same
    exact (ih inside).trans ((List.suffix_cons _ s).trans (List.suffix_cons _ _))
  | case5 d s other =>
    cases closed
    exact List.suffix_cons _ _
  | case6 c d s other ih =>
    obtain ⟨⟨cs', r'⟩, inside, same⟩ := Option.map_eq_some_iff.mp closed
    cases same
    exact (ih inside).trans (List.suffix_cons c _)

theorem stays_quoted (q : Char) : Stays fatal (quoted q) := by
  intro s
  unfold quoted
  split
  · next c r =>
    split
    · split
      · next closed => exact .ok ((closeQuote?_suffix closed).trans (List.suffix_cons c r))
      · exact .miss List.suffix_rfl
    · exact .miss List.suffix_rfl
  · exact .miss List.suffix_rfl

theorem stays_identifier : Stays fatal identifier :=
  (stays_quoted '"').orElse stays_word.map

theorem stays_tableName : Stays fatal tableName :=
  (stays_quoted '"').orElse (.filterMap (.takeWhile1 _))

theorem stays_digits : Stays fatal digits :=
  .takeWhile1 Char.isDigit

theorem stays_numeral : Stays fatal numeral := by
  have fraction : Stays fatal (do
      let c ← satisfy (· = '.')
      return c :: (← digits)) :=
    (Stays.satisfy _).bind fun _ => stays_digits.map
  have exponent : Stays fatal (do
      let e ← satisfy fun c => c = 'e' || c = 'E'
      let sign ← optional (satisfy fun c => c = '+' || c = '-')
      return e :: (sign.toList ++ (← digits))) :=
    (Stays.satisfy _).bind fun _ => (Stays.satisfy _).optional.bind fun _ => stays_digits.map
  refine (Stays.satisfy _).optional.bind fun _ => stays_digits.bind fun _ => ?_
  exact fraction.optional.bind fun _ => exponent.optional.map

theorem stays_literal : Stays fatal literal := by
  have number : Stays fatal numberLiteral :=
    .filterMap (stays_numeral.bind fun s => (Stays.notFollowedBy _).bind fun _ => .pure s)
  exact (stays_quoted '\'').map.orElse (number.orElse ((stays_keyword _).bind fun _ => .pure _))

theorem stays_bareText : Stays fatal bareText := by
  have next : Stays fatal nextBareWord := (Stays.takeWhile1 _).bind fun _ => stays_word.map
  have words : Stays fatal (do
      let first ← word
      let more ← many nextBareWord
      return first ++ more.flatten) :=
    stays_word.bind fun _ => next.many.map
  intro s
  have ends := words s
  unfold bareText
  dsimp only
  -- Words that go on otherwise are given back.
  split
  · next read =>
    rw [read] at ends
    cases ends with
    | ok behind =>
      split
      · exact .miss s.suffix_rfl
      · exact .miss s.suffix_rfl
      · exact .miss s.suffix_rfl
      · exact .ok behind
  · next read =>
    rw [read] at ends
    cases ends with
    | miss behind => exact .miss behind
    | fatal behind holds => exact .fatal behind holds

theorem stays_comparison : Stays fatal comparison := by
  have symbol (text : String) (c : Comparison) : Stays fatal (do exactly text; return c) :=
    (Stays.exactly text).bind fun _ => .pure c
  exact (symbol _ _).orElse <| (symbol _ _).orElse <| (symbol _ _).orElse <|
    (symbol _ _).orElse <| (symbol _ _).orElse (symbol _ _)

end Lexis

namespace Grammar

open Lexis

theorem stays_symbol (c : Char) : Stays fatal (spaced (char c)) :=
  (Stays.char c).spaced

theorem stays_clauseWord (k : String) : Stays fatal (spaced (keyword k)) :=
  (stays_keyword k).spaced

theorem stays_list {α : Type} {item : Reader α} (stays : Stays fatal item) :
    Stays fatal (separated (spaced (char ',')) item) :=
  Stays.separated (stays_symbol ',') stays

theorem stays_columnRef : Stays fatal columnRef := by
  refine stays_identifier.bind fun first => ?_
  refine ((Stays.char '.').bind fun _ => stays_identifier).many.bind fun rest => ?_
  cases rest with
  | nil => exact .pure _
  | cons second rest => exact .pure _

theorem stays_aggregate : Stays fatal aggregate := by
  have argument : Stays fatal argument := by
    refine (stays_symbol '(').bind fun _ => ?_
    exact (stays_literal.map.orElse stays_columnRef).bind fun e => (stays_symbol ')').bind fun _ => .pure e
  have count : Stays fatal countAggregate := by
    refine (Stays.tag _).bind fun _ => Stays.spaces.bind fun _ => (Stays.char _).bind fun _ => ?_
    refine (Stays.orElse ((stays_symbol '*').bind fun _ => .pure _) stays_columnRef.spaced.map).bind fun e => ?_
    exact (Stays.char _).bind fun _ => .pure e
  have named (f : Aggregate) (name : String) : Stays fatal (namedAggregate f name) :=
    (Stays.tag name).bind fun _ => argument.map
  exact count.orElse <| (named _ _).orElse <| (named _ _).orElse <| (named _ _).orElse (named _ _)

theorem stays_sumOf {term : Reader Expression} (stays : Stays fatal term) : Stays fatal (sumOf term) :=
  stays.bind fun _ => ((Stays.char '+').bind fun _ => stays).many.map

theorem stays_term (depth : Nat) : Stays fatal (term depth) := by
  induction depth with
  | zero => exact .miss
  | succ depth ih =>
    have nested : Stays fatal (do
        char '('
        let e ← sumOf (term depth)
        char ')'
        return e) :=
      (Stays.char _).bind fun _ => (stays_sumOf ih).bind fun e => (Stays.char _).bind fun _ => .pure e
    exact Stays.spaced <| stays_aggregate.orElse <| stays_literal.map.orElse <|
      nested.orElse stays_columnRef

theorem stays_expression : Stays fatal expression :=
  fun s => stays_sumOf (stays_term (s.length + 1)) s

theorem stays_predicate : Stays fatal predicate := by
  have not : Stays fatal notWord := (stays_clauseWord "NOT").optional
  refine stays_expression.bind fun left => Stays.orElse (.orElse ?_ (.orElse ?_ ?_)) ?_
  · refine (stays_clauseWord "IS").bind fun _ => not.bind fun negated => ?_
    exact (stays_clauseWord "NULL").bind fun _ => .pure _
  · refine not.bind fun negated => (stays_clauseWord "BETWEEN").bind fun _ => ?_
    refine stays_expression.bind fun low => (stays_clauseWord "AND").bind fun _ => ?_
    exact stays_expression.map
  · refine not.bind fun negated => (stays_clauseWord "LIKE").bind fun _ => ?_
    exact (stays_quoted '\'').spaced.map
  · refine stays_comparison.spaced.bind fun op => ?_
    split
    · exact (stays_bareText.spaced.map.orElse stays_expression).map
    · exact stays_expression.map

theorem stays_joined {k : String} (join : Condition → Condition → Condition) {p q : Reader Condition}
    (first : Stays fatal p) (right : Stays fatal q) :
    Stays fatal (do
      let first ← p
      match ← optional (do spaced (keyword k); q) with
      | some right => return join first right
      | none => return first) := by
  refine first.bind fun left => Stays.bind (.optional ((stays_clauseWord k).bind fun _ => right)) fun right? => ?_
  cases right? with
  | none => exact .pure left
  | some right => exact .pure (join left right)

theorem stays_conditions (depth : Nat) :
    Stays fatal (disjunction depth) ∧ Stays fatal (conjunction depth) ∧ Stays fatal (negation depth) ∧
      Stays fatal (primary depth) := by
  induction depth with
  | zero => exact ⟨.miss, .miss, .miss, .miss⟩
  | succ depth ih =>
    obtain ⟨disjunction, conjunction, negation, primary⟩ := ih
    refine ⟨stays_joined .or conjunction disjunction, stays_joined .and negation conjunction, ?_, ?_⟩
    · exact .orElse ((stays_clauseWord "NOT").bind fun _ => negation.map) primary
    · refine .orElse ((stays_symbol '(').bind fun _ => ?_) stays_predicate
      exact disjunction.bind fun c => (stays_symbol ')').bind fun _ => .pure c

theorem stays_condition : Stays fatal condition :=
  fun s => (stays_conditions (4 * s.length + 4)).1 s

theorem stays_newName : Stays fatal newName :=
  .optional ((stays_clauseWord "AS").optional.bind fun _ => stays_identifier.spaced)

/-- A sum is read here, and no name behind it. -/
def NamelessSum (s : List Char) : Prop :=
  ∃ left right behind rest,
    expression s = .ok (.add left right, behind) ∧ newName behind = .ok (none, rest)

theorem stays_outputColumn : Stays NamelessSum outputColumn := by
  have column : Stays NamelessSum (do
      let e ← expression
      return ⟨e, ← newName⟩ : Reader OutputColumn) :=
    stays_expression.bind fun e => stays_newName.map
  intro s
  have ends := column s
  unfold outputColumn
  dsimp only
  split
  · next left right rest read =>
    refine .fatal s.suffix_rfl ?_
    obtain ⟨e, behind, readSum, others⟩ := exists_of_bind_ok read
    obtain ⟨name?, rest', readName, same⟩ := exists_of_bind_ok others
    cases same
    exact ⟨left, right, behind, rest, readSum, readName⟩
  · exact ends

theorem stays_selectList : Stays NamelessSum selectList :=
  .orElse ((stays_symbol '*').bind fun _ => .pure _) (stays_list stays_outputColumn)

theorem stays_fromClause : Stays fatal fromClause := by
  refine .optional ((stays_clauseWord "FROM").bind fun _ => ?_)
  exact stays_tableName.spaced.bind fun name => stays_newName.map

theorem stays_conditionClause (k : String) : Stays fatal (conditionClause k) :=
  .optional ((stays_clauseWord k).bind fun _ => stays_condition)

theorem stays_groupByClause : Stays fatal groupByClause := by
  refine .map (.optional ((stays_clauseWord "GROUP").bind fun _ => ?_))
  exact (stays_clauseWord "BY").bind fun _ => stays_list stays_expression

theorem stays_orderByClause : Stays fatal orderByClause := by
  have direction (k : String) (order : SortOrder) : Stays fatal (do spaced (keyword k); return order) :=
    (stays_clauseWord k).bind fun _ => .pure order
  have item : Stays fatal orderItem :=
    stays_expression.bind fun e => ((direction _ _).orElse (direction _ _)).optional.map
  refine .map (.optional ((stays_clauseWord "ORDER").bind fun _ => ?_))
  exact (stays_clauseWord "BY").bind fun _ => stays_list item

theorem stays_countClause (k : String) : Stays fatal (countClause k) :=
  .optional ((stays_clauseWord k).bind fun _ => (Stays.filterMap stays_digits).spaced)

/-- Reading a statement ends within its text, and for good only at a sum without a name. -/
theorem stays_statement : Stays NamelessSum statement := by
  refine (stays_clauseWord _).bind fun _ => (stays_clauseWord _).optional.bind fun distinct => ?_
  refine stays_selectList.bind fun columns => stays_fromClause.bind fun from? => ?_
  refine (stays_conditionClause _).bind fun filter => stays_groupByClause.bind fun groupBy => ?_
  refine (stays_conditionClause _).bind fun having => stays_orderByClause.bind fun orderBy => ?_
  exact (stays_countClause _).bind fun limit => (stays_countClause _).map

end Grammar

end PlainTables
