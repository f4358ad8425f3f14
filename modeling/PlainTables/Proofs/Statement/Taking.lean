import PlainTables.Proofs.Text.Taking
import PlainTables.Statement.Grammar

/-!
# What statements take

Every reader of the grammar takes texts in which quotes are closed and semicolons stand inside of quotes only.
-/

namespace PlainTables

open Reader

namespace Lexis

def isPlain (c : Char) : Bool :=
  c ≠ '\'' && c ≠ '"' && c ≠ ';'

/-- Every quote is closed, and semicolons stand between quotes. -/
inductive Closed : List Char → Prop
  | nil : Closed []
  | plain {c : Char} {t : List Char} : isPlain c → Closed t → Closed (c :: t)
  | quoted {q : Char} {inner t : List Char} : q = '\'' ∨ q = '"' → q ∉ inner → Closed t →
      Closed (q :: (inner ++ q :: t))

theorem Closed.append {t u : List Char} (front : Closed t) (back : Closed u) : Closed (t ++ u) := by
  induction front with
  | nil => exact back
  | plain isPlain _ ih => exact .plain isPlain ih
  | quoted isQuote closes _ ih =>
    rw [List.cons_append, List.append_assoc, List.cons_append]
    exact .quoted isQuote closes ih

theorem Closed.joins : Joins Closed where
  nil := .nil
  append := .append

theorem Closed.single {c : Char} (plain : isPlain c) : Closed [c] :=
  .plain plain .nil

theorem Closed.of_plain {t : List Char} (plain : ∀ c ∈ t, isPlain c) : Closed t :=
  Closed.joins.of_each fun c mem => .single (plain c mem)

abbrev Plain (accepts : Char → Bool) : Prop :=
  accepts '\'' = false ∧ accepts '"' = false ∧ accepts ';' = false

theorem Plain.isPlain {accepts : Char → Bool} (plain : Plain accepts) {c : Char}
    (accepted : accepts c) : isPlain c := by
  have other {d : Char} (rejected : accepts d = false) : c ≠ d := by
    rintro rfl
    rw [accepted] at rejected
    cases rejected
  simp [Lexis.isPlain, other plain.1, other plain.2.1, other plain.2.2]

theorem Plain.takes_satisfy {accepts : Char → Bool} (plain : Plain accepts) :
    Takes Closed (satisfy accepts) :=
  .satisfy fun _ accepted => .single (plain.isPlain accepted)

theorem Plain.takes_takeWhile {accepts : Char → Bool} (plain : Plain accepts) :
    Takes Closed (takeWhile accepts) :=
  Closed.joins.takeWhile fun _ accepted => .single (plain.isPlain accepted)

theorem Plain.takes_takeWhile1 {accepts : Char → Bool} (plain : Plain accepts) :
    Takes Closed (takeWhile1 accepts) :=
  .takeWhile1 fun _ _ all => .of_plain fun c mem => plain.isPlain (all c mem)

theorem takes_spaces : Takes Closed spaces := by
  have plain : Plain isSpace := by decide
  exact Closed.joins.dropWhile fun _ space => .single (plain.isPlain space)

theorem takes_spaced {α : Type} {p : Reader α} (takes : Takes Closed p) :
    Takes Closed (spaced p) :=
  Closed.joins.within takes_spaces takes

theorem takes_char {c : Char} (plain : isPlain c) : Takes Closed (char c) :=
  Closed.joins.char (.single plain)

theorem takes_tag {w : String} (plain : w.toList.all isPlain) : Takes Closed (tag w) := by
  have upper : Plain fun c => isPlain c.toUpper := by decide
  refine .tag fun t same => .of_plain fun c mem =>
    upper.isPlain (List.all_eq_true.mp plain _ ?_)
  rw [← same]
  exact List.mem_map_of_mem mem

theorem takes_keyword {k : String} (plain : k.toList.all isPlain) :
    Takes Closed (keyword k) :=
  Closed.joins.bind (takes_tag plain) fun _ => Closed.joins.notFollowedBy isWordChar

theorem takes_word : Takes Closed word := by
  have first : Plain fun c => Text.isAlphabetic c || c = '_' := by decide
  have others : Plain isWordChar := by decide
  exact .filterMap (Closed.joins.bind first.takes_satisfy fun _ =>
    Closed.joins.map others.takes_takeWhile)

theorem closeQuote?_parts {q : Char} (isQuote : q = '\'' ∨ q = '"') {s cs r : List Char}
    (closed : closeQuote? q s = some (cs, r)) :
    ∃ inner t, q ∉ inner ∧ Closed t ∧ s = inner ++ q :: (t ++ r) := by
  fun_induction closeQuote? q s generalizing cs r with
  | case1 => cases closed
  | case2 =>
    cases closed
    exact ⟨[], [], List.not_mem_nil, .nil, rfl⟩
  | case3 => cases closed
  | case4 s ih =>
    -- A quote written twice closes one piece and opens the next.
    obtain ⟨⟨cs', r'⟩, inside, same⟩ := Option.map_eq_some_iff.mp closed
    cases same
    obtain ⟨inner, t, closes, others, rfl⟩ := ih inside
    refine ⟨[], q :: (inner ++ q :: t), List.not_mem_nil, .quoted isQuote closes others, ?_⟩
    simp
  | case5 d s other =>
    cases closed
    exact ⟨[], [], List.not_mem_nil, .nil, rfl⟩
  | case6 c d s other ih =>
    obtain ⟨⟨cs', r'⟩, inside, same⟩ := Option.map_eq_some_iff.mp closed
    cases same
    obtain ⟨inner, t, closes, others, rest⟩ := ih inside
    refine ⟨c :: inner, t, ?_, others, by rw [rest]; rfl⟩
    rw [List.mem_cons, not_or]
    exact ⟨Ne.symm other, closes⟩

theorem takes_quoted {q : Char} (isQuote : q = '\'' ∨ q = '"') : Takes Closed (quoted q) := by
  intro s a r taken
  unfold quoted at taken
  split at taken
  · next c s =>
    split at taken
    · next same =>
      split at taken
      · next closed =>
        cases taken
        obtain ⟨inner, t, closes, others, rfl⟩ := closeQuote?_parts isQuote closed
        refine ⟨q :: (inner ++ q :: t), .quoted isQuote closes others, ?_⟩
        rw [same]
        simp
      · cases taken
    · cases taken
  · cases taken

theorem takes_identifier : Takes Closed identifier :=
  .orElse (takes_quoted (.inr rfl)) (Closed.joins.map takes_word)

theorem takes_tableName : Takes Closed tableName := by
  have path : Plain fun c => isWordChar c || c = '.' || c = '-' || c = '/' || c = '\\' := by decide
  exact .orElse (takes_quoted (.inr rfl)) (.filterMap path.takes_takeWhile1)

theorem takes_textLiteral : Takes Closed textLiteral :=
  takes_quoted (.inl rfl)

theorem takes_digits : Takes Closed digits := by
  have plain : Plain Char.isDigit := by decide
  exact plain.takes_takeWhile1

theorem takes_numeral : Takes Closed numeral := by
  have joins := Closed.joins
  refine joins.bind (joins.optional (Plain.takes_satisfy (by decide))) fun minus => ?_
  refine joins.bind takes_digits fun whole => joins.bind (joins.optional ?_) fun fraction => ?_
  · exact joins.bind (Plain.takes_satisfy (by decide)) fun c => joins.map takes_digits
  refine joins.map (joins.optional (joins.bind (Plain.takes_satisfy (by decide)) fun e => ?_))
  exact joins.bind (joins.optional (Plain.takes_satisfy (by decide))) fun _ =>
    joins.map takes_digits

theorem takes_literal : Takes Closed literal := by
  have joins := Closed.joins
  refine .orElse (joins.map takes_textLiteral) (.orElse (.filterMap ?_) ?_)
  · exact joins.bind takes_numeral fun s => joins.bind (joins.notFollowedBy _) fun _ => joins.pure s
  · exact joins.bind (takes_keyword (by decide)) fun _ => joins.pure _

theorem takes_nextBareWord : Takes Closed nextBareWord := by
  have plain : Plain fun c => c = ' ' || c = '\t' := by decide
  exact Closed.joins.bind plain.takes_takeWhile1 fun _ => Closed.joins.map takes_word

theorem takes_bareText : Takes Closed bareText := by
  have words : Takes Closed (do
      let first ← word
      let more ← many nextBareWord
      return first ++ more.flatten) :=
    Closed.joins.bind takes_word fun _ => Closed.joins.map (Closed.joins.many takes_nextBareWord)
  intro s a r taken
  unfold bareText at taken
  dsimp only at taken
  split at taken
  · next cs rest read =>
    split at taken
    · cases taken
    · cases taken
    · cases taken
    · cases taken
      exact words s cs _ read
  · cases taken

theorem takes_rowCount : Takes Closed rowCount :=
  .filterMap takes_digits

theorem takes_comparison : Takes Closed comparison := by
  have symbol {w : String} (op : Comparison) (plain : w.toList.all isPlain) :
      Takes Closed (do exactly w; return op) :=
    Closed.joins.bind (.exactly (.of_plain (List.all_eq_true.mp plain))) fun _ => Closed.joins.pure op
  exact .orElse (symbol _ (by decide)) <| .orElse (symbol _ (by decide)) <|
    .orElse (symbol _ (by decide)) <| .orElse (symbol _ (by decide)) <|
    .orElse (symbol _ (by decide)) (symbol _ (by decide))

end Lexis

namespace Grammar

open Lexis

private abbrev joins := Closed.joins

theorem takes_columnRef : Takes Closed columnRef := by
  refine joins.bind takes_identifier fun first => joins.bind (joins.many ?_) fun rest => ?_
  · exact joins.bind (takes_char (by decide)) fun _ => takes_identifier
  · cases rest with
    | nil => exact joins.pure _
    | cons second rest => exact joins.pure _

theorem takes_argument : Takes Closed argument := by
  refine joins.bind (takes_spaced (takes_char (by decide))) fun _ => ?_
  refine joins.bind (.orElse (joins.map takes_literal) takes_columnRef) fun e => ?_
  exact joins.bind (takes_spaced (takes_char (by decide))) fun _ => joins.pure e

theorem takes_countAggregate : Takes Closed countAggregate := by
  refine joins.bind (takes_tag (by decide)) fun _ => joins.bind takes_spaces fun _ => ?_
  refine joins.bind (takes_char (by decide)) fun _ => joins.bind (.orElse ?_ ?_) fun e => ?_
  · exact joins.bind (takes_spaced (takes_char (by decide))) fun _ => joins.pure _
  · exact joins.map (takes_spaced takes_columnRef)
  · exact joins.bind (takes_char (by decide)) fun _ => joins.pure e

theorem takes_aggregate : Takes Closed aggregate := by
  have named (f : Aggregate) {name : String} (plain : name.toList.all isPlain) :
      Takes Closed (namedAggregate f name) :=
    joins.bind (takes_tag plain) fun _ => joins.map takes_argument
  exact .orElse takes_countAggregate <| .orElse (named _ (by decide)) <|
    .orElse (named _ (by decide)) <| .orElse (named _ (by decide)) (named _ (by decide))

theorem takes_sumOf {term : Reader Expression} (takes : Takes Closed term) :
    Takes Closed (sumOf term) := by
  refine joins.bind takes fun first => joins.map (joins.many ?_)
  exact joins.bind (takes_char (by decide)) fun _ => takes

theorem takes_term (depth : Nat) : Takes Closed (term depth) := by
  induction depth with
  | zero => exact .miss
  | succ depth ih =>
    refine takes_spaced (.orElse takes_aggregate (.orElse (joins.map takes_literal)
      (.orElse ?_ takes_columnRef)))
    refine joins.bind (takes_char (by decide)) fun _ => joins.bind (takes_sumOf ih) fun e => ?_
    exact joins.bind (takes_char (by decide)) fun _ => joins.pure e

theorem takes_expression : Takes Closed expression :=
  fun s => takes_sumOf (takes_term (s.length + 1)) s

theorem takes_notWord : Takes Closed notWord :=
  joins.optional (takes_spaced (takes_keyword (by decide)))

theorem takes_predicate : Takes Closed predicate := by
  have isNull (left : Expression) : Takes Closed (do
      spaced (keyword "IS")
      let negated ← notWord
      spaced (keyword "NULL")
      return negatedIf negated (.isNull left)) :=
    joins.bind (takes_spaced (takes_keyword (by decide))) fun _ =>
      joins.bind takes_notWord fun _ =>
        joins.bind (takes_spaced (takes_keyword (by decide))) fun _ => joins.pure _
  refine joins.bind takes_expression fun left => .orElse (.orElse (isNull left) (.orElse ?_ ?_)) ?_
  · refine joins.bind takes_notWord fun negated => ?_
    refine joins.bind (takes_spaced (takes_keyword (by decide))) fun _ => ?_
    refine joins.bind takes_expression fun low => ?_
    refine joins.bind (takes_spaced (takes_keyword (by decide))) fun _ => ?_
    exact joins.bind takes_expression fun high => joins.pure _
  · refine joins.bind takes_notWord fun negated => ?_
    refine joins.bind (takes_spaced (takes_keyword (by decide))) fun _ => ?_
    exact joins.map (takes_spaced takes_textLiteral)
  · refine joins.bind (takes_spaced takes_comparison) fun op => ?_
    split
    · exact joins.bind (.orElse (joins.map (takes_spaced takes_bareText)) takes_expression)
        fun right => joins.pure _
    · exact joins.map takes_expression

theorem takes_conditions (depth : Nat) :
    Takes Closed (disjunction depth) ∧ Takes Closed (conjunction depth) ∧
      Takes Closed (negation depth) ∧ Takes Closed (primary depth) := by
  induction depth with
  | zero => exact ⟨.miss, .miss, .miss, .miss⟩
  | succ depth ih =>
    obtain ⟨disjunction, conjunction, negation, primary⟩ := ih
    refine ⟨?_, ?_, ?_, ?_⟩
    · refine joins.bind conjunction fun first => joins.bind (joins.optional ?_) fun right? => ?_
      · exact joins.bind (takes_spaced (takes_keyword (by decide))) fun _ => disjunction
      · cases right? with
        | none => exact joins.pure first
        | some right => exact joins.pure _
    · refine joins.bind negation fun first => joins.bind (joins.optional ?_) fun right? => ?_
      · exact joins.bind (takes_spaced (takes_keyword (by decide))) fun _ => conjunction
      · cases right? with
        | none => exact joins.pure first
        | some right => exact joins.pure _
    · exact .orElse (joins.bind (takes_spaced (takes_keyword (by decide))) fun _ =>
        joins.map negation) primary
    · refine .orElse (joins.bind (takes_spaced (takes_char (by decide))) fun _ => ?_)
        takes_predicate
      exact joins.bind disjunction fun c =>
        joins.bind (takes_spaced (takes_char (by decide))) fun _ => joins.pure c

theorem takes_condition : Takes Closed condition :=
  fun s => (takes_conditions (4 * s.length + 4)).1 s

theorem takes_newName : Takes Closed newName :=
  joins.optional (joins.bind (joins.optional (takes_spaced (takes_keyword (by decide)))) fun _ =>
    takes_spaced takes_identifier)

theorem takes_outputColumn : Takes Closed outputColumn := by
  have column : Takes Closed (do
      let e ← expression
      return ⟨e, ← newName⟩ : Reader OutputColumn) :=
    joins.bind takes_expression fun e => joins.map takes_newName
  intro s a r taken
  unfold outputColumn at taken
  dsimp only at taken
  split at taken
  · cases taken
  · exact column s a r taken

theorem takes_list {α : Type} {item : Reader α} (takes : Takes Closed item) :
    Takes Closed (separated (spaced (char ',')) item) :=
  joins.separated (takes_spaced (takes_char (by decide))) takes

theorem takes_selectList : Takes Closed selectList :=
  .orElse (joins.bind (takes_spaced (takes_char (by decide))) fun _ => joins.pure _)
    (takes_list takes_outputColumn)

theorem takes_fromClause : Takes Closed fromClause := by
  refine joins.optional (joins.bind (takes_spaced (takes_keyword (by decide))) fun _ => ?_)
  exact joins.bind (takes_spaced takes_tableName) fun name => joins.map takes_newName

theorem takes_conditionClause {k : String} (plain : k.toList.all isPlain) :
    Takes Closed (conditionClause k) :=
  joins.optional (joins.bind (takes_spaced (takes_keyword plain)) fun _ => takes_condition)

theorem takes_groupByClause : Takes Closed groupByClause := by
  refine joins.map (joins.optional ?_)
  refine joins.bind (takes_spaced (takes_keyword (by decide))) fun _ => ?_
  exact joins.bind (takes_spaced (takes_keyword (by decide))) fun _ => takes_list takes_expression

theorem takes_orderItem : Takes Closed orderItem := by
  have direction {k : String} (order : SortOrder) (plain : k.toList.all isPlain) :
      Takes Closed (do spaced (keyword k); return order) :=
    joins.bind (takes_spaced (takes_keyword plain)) fun _ => joins.pure order
  exact joins.bind takes_expression fun e => joins.map (joins.optional
    (.orElse (direction _ (by decide)) (direction _ (by decide))))

theorem takes_orderByClause : Takes Closed orderByClause := by
  refine joins.map (joins.optional ?_)
  refine joins.bind (takes_spaced (takes_keyword (by decide))) fun _ => ?_
  exact joins.bind (takes_spaced (takes_keyword (by decide))) fun _ => takes_list takes_orderItem

theorem takes_countClause {k : String} (plain : k.toList.all isPlain) :
    Takes Closed (countClause k) :=
  joins.optional (joins.bind (takes_spaced (takes_keyword plain)) fun _ =>
    takes_spaced takes_rowCount)

theorem takes_statement : Takes Closed statement := by
  refine joins.bind (takes_spaced (takes_keyword (by decide))) fun _ => ?_
  refine joins.bind (joins.optional (takes_spaced (takes_keyword (by decide)))) fun distinct => ?_
  refine joins.bind takes_selectList fun columns => joins.bind takes_fromClause fun from? => ?_
  refine joins.bind (takes_conditionClause (by decide)) fun filter => ?_
  refine joins.bind takes_groupByClause fun groupBy => ?_
  refine joins.bind (takes_conditionClause (by decide)) fun having => ?_
  refine joins.bind takes_orderByClause fun orderBy => ?_
  refine joins.bind (takes_countClause (by decide)) fun limit => ?_
  exact joins.bind (takes_countClause (by decide)) fun offset => joins.pure _

end Grammar

end PlainTables
