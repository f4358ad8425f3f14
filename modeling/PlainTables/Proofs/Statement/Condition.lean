import PlainTables.Proofs.Statement.Operand

/-!
# Reading written conditions

A predicate is told apart by what follows its first operand. Conditions are read back at every level
of the grammar, in parentheses where the level asks for them.
-/

namespace PlainTables

open Reader Lexis
open Token (join tail word enclose)

inductive Token.StartsOperand : Token → Prop
  | name (s : String) : StartsOperand (.name s)
  | text (s : String) : StartsOperand (.text s)
  | integer (i : Int64) : StartsOperand (.integer i)
  | null : StartsOperand (word "NULL")
  | call (f : Aggregate) : StartsOperand (.call f)

theorem Expression.Printable.starts {e : Expression} (printable : e.Printable) :
    ∃ token tokens, e.tokens = token :: tokens ∧ token.StartsOperand := by
  induction printable with
  | simple simple =>
    cases simple with
    | column s => exact ⟨_, _, rfl, .name s⟩
    | literal printable =>
      cases printable with
      | null => exact ⟨_, _, rfl, .null⟩
      | integer i => exact ⟨_, _, rfl, .integer i⟩
      | text s => exact ⟨_, _, rfl, .text s⟩
  | @add l r _ _ ihl _ =>
    obtain ⟨token, tokens, spelling, starts⟩ := ihl
    exact ⟨token, _, by rw [Expression.tokens, spelling]; rfl, starts⟩
  | countRows => exact ⟨_, _, rfl, .call .count⟩
  | count s => exact ⟨_, _, rfl, .call .count⟩
  | @aggregate f e _ _ => exact ⟨_, _, rfl, .call f⟩

namespace Grammar

variable {rest : List Token}

/-! ## Predicates -/

theorem notWord_of_ne (tokens : List Token) (other : tokens.head? ≠ some (word "NOT")) :
    notWord (join tokens) = .ok (none, join tokens) :=
  optional_of_misses (spaced_misses (keyword_misses (w := ⟨"NOT", by decide⟩) other))

theorem spaced_keyword_misses {w : Keyword} {tokens : List Token}
    (other : tokens.head? ≠ some (.keyword w)) :
    Misses (spaced (keyword w.val)) (join tokens) :=
  spaced_misses (keyword_misses other)

theorem predicateTail_isNull (left : Expression) (rest : List Token) :
    predicateTail left (join (word "IS" :: word "NULL" :: rest)) =
      .ok (.isNull left, join rest) := by
  refine orElse_of_ok ?_
  rw [bind_of_ok (keyword_join ⟨"IS", by decide⟩ _), bind_of_ok (notWord_of_ne _ (by simp)),
    bind_of_ok (keyword_join ⟨"NULL", by decide⟩ _)]
  rfl

theorem predicateTail_between (left : Expression) {low high : Expression} (lowWritten : low.Printable)
    (highWritten : high.Printable) (ends : rest.head? ≠ some .plus) :
    predicateTail left
        (join (word "BETWEEN" :: (low.tokens ++ word "AND" :: (high.tokens ++ rest)))) =
      .ok (.between left low high, join rest) := by
  have notIs : Misses (spaced (keyword "IS"))
      (join (word "BETWEEN" :: (low.tokens ++ word "AND" :: (high.tokens ++ rest)))) :=
    spaced_keyword_misses (w := ⟨"IS", by decide⟩) (by simp)
  refine (orElse_of_misses notIs.bind).trans (orElse_of_ok ?_)
  have lowRead := expression_tokens lowWritten (word "AND" :: (high.tokens ++ rest)) (by simp)
  rw [bind_of_ok (notWord_of_ne _ (by simp)), bind_of_ok (keyword_join ⟨"BETWEEN", by decide⟩ _),
    bind_of_ok lowRead, bind_of_ok (keyword_join ⟨"AND", by decide⟩ _),
    bind_of_ok (expression_tokens highWritten rest ends)]
  rfl

theorem predicateTail_like (left : Expression) (pattern : String) (rest : List Token) :
    predicateTail left (join (word "LIKE" :: .text pattern :: rest)) =
      .ok (.like left pattern, join rest) := by
  have notIs : Misses (spaced (keyword "IS")) (join (word "LIKE" :: .text pattern :: rest)) :=
    spaced_keyword_misses (w := ⟨"IS", by decide⟩) (by simp)
  have notBetween :
      Misses (spaced (keyword "BETWEEN")) (join (word "LIKE" :: .text pattern :: rest)) :=
    spaced_keyword_misses (w := ⟨"BETWEEN", by decide⟩) (by simp)
  have notNegated := notWord_of_ne (word "LIKE" :: .text pattern :: rest) (by simp)
  refine (orElse_of_misses notIs.bind).trans ?_
  refine (orElse_of_misses (Misses.bind_of_ok notNegated notBetween.bind)).trans ?_
  rw [bind_of_ok notNegated, bind_of_ok (keyword_join ⟨"LIKE", by decide⟩ _),
    bind_of_ok (spaced_token (textLiteral_text pattern rest))]
  rfl

theorem predicateTail_misses (left : Expression) (operator : Comparison) (rest : List Token) :
    Misses (predicateTail left) (join (.comparison operator :: rest)) := by
  have notNegated := notWord_of_ne (.comparison operator :: rest) (by simp)
  have notIs : Misses (spaced (keyword "IS")) (join (.comparison operator :: rest)) :=
    spaced_keyword_misses (w := ⟨"IS", by decide⟩) (by simp)
  have notBetween : Misses (spaced (keyword "BETWEEN")) (join (.comparison operator :: rest)) :=
    spaced_keyword_misses (w := ⟨"BETWEEN", by decide⟩) (by simp)
  have notLike : Misses (spaced (keyword "LIKE")) (join (.comparison operator :: rest)) :=
    spaced_keyword_misses (w := ⟨"LIKE", by decide⟩) (by simp)
  exact Misses.orElse notIs.bind (Misses.orElse (Misses.bind_of_ok notNegated notBetween.bind)
    (Misses.bind_of_ok notNegated notLike.bind))

theorem word_call (f : Aggregate) (rest : List Token) :
    Lexis.word (join (.call f :: rest)) = .ok (f.name.toList, join (.opening :: rest)) := by
  rw [join_call, Token.join_cons]
  refine filterMap_of_some (a := f.name.toList) ?_ ?_
  · cases f <;> rfl
  · cases f <;> decide

/-- An operand is no unquoted text: it starts with no word, or it is the call of an aggregate. -/
theorem bareText_misses {token : Token} (starts : token.StartsOperand) (rest : List Token) :
    Misses bareText (join (token :: rest)) := by
  have noWord (misses : Misses Lexis.word (join (token :: rest))) :
      Misses bareText (join (token :: rest)) := by
    obtain ⟨place, missed⟩ := misses.bind (f := fun first => do
      let more ← many nextBareWord
      return first ++ more.flatten)
    exact ⟨place, by simp only [bareText, missed]⟩
  have noLetter {c : Char} {letters : List Char} (spelling : token.spelling = c :: letters)
      (other : (Text.isAlphabetic c || c = '_') = false) :
      Misses bareText (join (token :: rest)) := by
    refine noWord (word_misses_of_stops fun d first => ?_)
    rw [Token.join_cons, spelling] at first
    obtain rfl : c = d := Option.some.inj first
    exact other
  cases starts with
  | null => exact noWord (word_misses_keyword ⟨"NULL", by decide⟩ rest)
  | name s => exact noLetter rfl (by decide)
  | text s => exact noLetter rfl (by decide)
  | integer i =>
    by_cases negative : i.toInt < 0
    · exact noLetter (by rw [Token.spelling, Numeral.intText_eq, if_pos negative]) (by decide)
    · obtain ⟨c, ds, digits, digit⟩ := Numeral.toDigits_eq_cons i.toInt.natAbs
      refine noLetter (by rw [Token.spelling, Numeral.intText_eq, if_neg negative, digits]) ?_
      exact not_isAlphabetic_of_isDigit digit
  | call f =>
    have noBlank : Misses nextBareWord (join (.opening :: rest)) := by
      rw [Token.join_cons]
      refine Misses.bind (takeWhile1_misses fun c first => ?_)
      obtain rfl : '(' = c := Option.some.inj first
      rfl
    have words : (do
        let first ← Lexis.word
        let more ← many nextBareWord
        return first ++ more.flatten) (join (.call f :: rest)) =
          .ok (f.name.toList ++ [], join (.opening :: rest)) := by
      rw [bind_of_ok (word_call f rest), bind_of_ok (many_of_misses noBlank)]
      rfl
    refine ⟨join (.call f :: rest), ?_⟩
    simp only [bareText, words]
    rw [Token.join_cons]
    rfl

theorem comparisonTail_tokens (left : Expression) (operator : Comparison) {right : Expression}
    (printable : right.Printable) (ends : rest.head? ≠ some .plus) :
    comparisonTail left (join (.comparison operator :: (right.tokens ++ rest))) =
      .ok (.compare operator left right, join rest) := by
  have symbol : spaced comparison (join (.comparison operator :: (right.tokens ++ rest))) =
      .ok (operator, join (right.tokens ++ rest)) :=
    spaced_token (comparison_comparison operator _)
  have notBare : Misses (spaced bareText) (join (right.tokens ++ rest)) := by
    obtain ⟨token, tokens, spelling, starts⟩ := printable.starts
    rw [spelling]
    exact spaced_misses (bareText_misses starts _)
  have operand := expression_tokens printable rest ends
  rw [comparisonTail, bind_of_ok symbol]
  cases operator with
  | eq =>
    have right : orElse (do return .literal (← spaced bareText)) expression
        (join (right.tokens ++ rest)) = .ok (right, join rest) :=
      (orElse_of_misses notBare.bind).trans operand
    simp only
    rw [bind_of_ok right]
    rfl
  | _ =>
    simp only
    rw [bind_of_ok operand]
    rfl

theorem predicate_tokens {c : Condition} (printable : c.Printable) (notNot : ∀ d, c ≠ .not d)
    (simple : c.isConnective = false) (ends : rest.head? ≠ some .plus) :
    predicate (join (c.tokens ++ rest)) = .ok (c, join rest) := by
  cases printable with
  | @compare op l r left right =>
    have first := expression_tokens left (.comparison op :: (r.tokens ++ rest)) (by simp)
    rw [Condition.tokens, List.append_assoc, List.cons_append, predicate, bind_of_ok first]
    exact (orElse_of_misses (predicateTail_misses l op _)).trans
      (comparisonTail_tokens l op right ends)
  | @between e low high operand lowWritten highWritten =>
    have first := expression_tokens operand
      (word "BETWEEN" :: (low.tokens ++ word "AND" :: (high.tokens ++ rest))) (by simp)
    rw [Condition.tokens, List.append_assoc, List.cons_append, List.append_assoc, List.cons_append,
      predicate, bind_of_ok first]
    exact orElse_of_ok (predicateTail_between e lowWritten highWritten ends)
  | @like e pattern operand =>
    have first := expression_tokens operand (word "LIKE" :: .text pattern :: rest) (by simp)
    rw [Condition.tokens, List.append_assoc, predicate]
    exact (bind_of_ok first).trans (orElse_of_ok (predicateTail_like e pattern rest))
  | @isNull e operand =>
    have first := expression_tokens operand (word "IS" :: word "NULL" :: rest) (by simp)
    rw [Condition.tokens, List.append_assoc, predicate]
    exact (bind_of_ok first).trans (orElse_of_ok (predicateTail_isNull e rest))
  | not => exact absurd rfl (notNot _)
  | and => cases simple
  | or => cases simple

/-! ## Levels of conditions -/

/-- A condition as the operand of NOT and on the left of AND. -/
def atom (c : Condition) : List Token := enclose c.isConnective c.tokens

/-- A condition on the right of AND and on the left of OR. -/
def factor (c : Condition) : List Token := enclose c.isOr c.tokens

def ReadsAtom (c : Condition) : Prop :=
  ∀ depth rest, 4 * (atom c).length + 2 ≤ depth → rest.head? ≠ some .plus →
    negation depth (join (atom c ++ rest)) = .ok (c, join rest)

def ReadsFactor (c : Condition) : Prop :=
  ∀ depth rest, 4 * (factor c).length + 3 ≤ depth → rest.head? ≠ some .plus →
    rest.head? ≠ some (word "AND") →
    conjunction depth (join (factor c ++ rest)) = .ok (c, join rest)

def ReadsWhole (c : Condition) : Prop :=
  ∀ depth rest, 4 * c.tokens.length + 4 ≤ depth → rest.head? ≠ some .plus →
    rest.head? ≠ some (word "AND") → rest.head? ≠ some (word "OR") →
    disjunction depth (join (c.tokens ++ rest)) = .ok (c, join rest)

/-- In parentheses the condition is read at the weakest level again. -/
theorem readsAtom_of_readsWhole {c : Condition} (connective : c.isConnective = true)
    (whole : ReadsWhole c) : ReadsAtom c := by
  intro depth rest enough _
  have tokens : atom c ++ rest = .opening :: (c.tokens ++ .closing :: rest) := by
    simp [atom, enclose, connective]
  have length : (atom c).length = c.tokens.length + 2 := by simp [atom, enclose, connective]
  rw [length] at enough
  obtain ⟨depth, rfl⟩ := Nat.exists_eq_add_of_le' (show 2 ≤ depth by omega)
  have notNot : Misses (spaced (keyword "NOT"))
      (join (.opening :: (c.tokens ++ .closing :: rest))) :=
    spaced_keyword_misses (w := ⟨"NOT", by decide⟩) (by simp)
  have opening := spaced_char (c := '(') .opening rfl (c.tokens ++ .closing :: rest)
  have inside := whole depth (.closing :: rest) (by omega) (by simp) (by simp) (by simp)
  have closing := spaced_char (c := ')') .closing rfl rest
  rw [tokens, negation, orElse_of_misses notNot.bind, primary]
  refine orElse_of_ok ?_
  rw [bind_of_ok opening, bind_of_ok inside, bind_of_ok closing]
  rfl

theorem readsAtom_of_predicate {c : Condition} (printable : c.Printable)
    (notNot : ∀ d, c ≠ .not d) (simple : c.isConnective = false) : ReadsAtom c := by
  intro depth rest enough ends
  have tokens : atom c = c.tokens := by simp [atom, enclose, simple]
  obtain ⟨first, others, spelling, starts⟩ :
      ∃ token tokens, c.tokens = token :: tokens ∧ token.StartsOperand := by
    have operand {e : Expression} (printable : e.Printable) (others : List Token) :
        ∃ token tokens, e.tokens ++ others = token :: tokens ∧ token.StartsOperand := by
      obtain ⟨token, tokens, spelling, starts⟩ := printable.starts
      exact ⟨token, tokens ++ others, by rw [spelling]; rfl, starts⟩
    cases printable with
    | compare left => exact operand left _
    | between e => exact operand e _
    | like _ e => exact operand e _
    | isNull e => exact operand e _
    | not => exact absurd rfl (notNot _)
    | and => cases simple
    | or => cases simple
  obtain ⟨depth, rfl⟩ := Nat.exists_eq_add_of_le' (show 2 ≤ depth by omega)
  have noNot : Misses (spaced (keyword "NOT")) (join (c.tokens ++ rest)) := by
    refine spaced_keyword_misses (w := ⟨"NOT", by decide⟩) ?_
    rw [spelling]
    cases starts <;> simp
  have noOpening : Misses (spaced (char '(')) (join (c.tokens ++ rest)) := by
    refine spaced_misses (char_misses_join rfl ?_)
    rw [spelling]
    cases starts <;> simp
  rw [tokens, negation, orElse_of_misses noNot.bind, primary, orElse_of_misses noOpening.bind]
  exact predicate_tokens printable notNot simple ends

theorem readsAtom_not {c : Condition} (operand : ReadsAtom c) : ReadsAtom (.not c) := by
  intro depth rest enough ends
  have tokens : atom (.not c) = word "NOT" :: atom c := rfl
  rw [tokens] at enough ⊢
  rw [List.length_cons] at enough
  obtain ⟨depth, rfl⟩ := Nat.exists_eq_add_of_le' (show 1 ≤ depth by omega)
  rw [List.cons_append, negation]
  refine orElse_of_ok ?_
  rw [bind_of_ok (keyword_join ⟨"NOT", by decide⟩ _),
    bind_of_ok (operand depth rest (by omega) ends)]
  rfl

theorem readsFactor_of_readsAtom {c : Condition} (single : c.isConnective = c.isOr)
    (operand : ReadsAtom c) : ReadsFactor c := by
  intro depth rest enough ends noAnd
  have tokens : factor c = atom c := by rw [factor, atom, single]
  rw [tokens] at enough ⊢
  obtain ⟨depth, rfl⟩ := Nat.exists_eq_add_of_le' (show 1 ≤ depth by omega)
  have ended : Misses (spaced (keyword "AND")) (join rest) :=
    spaced_keyword_misses (w := ⟨"AND", by decide⟩) noAnd
  rw [conjunction, bind_of_ok (operand depth rest (by omega) ends),
    bind_of_ok (optional_of_misses ended.bind)]
  rfl

theorem readsFactor_and {l r : Condition} (left : ReadsAtom l) (right : ReadsFactor r) :
    ReadsFactor (.and l r) := by
  intro depth rest enough ends noAnd
  have tokens : factor (.and l r) = atom l ++ word "AND" :: factor r := rfl
  rw [tokens] at enough ⊢
  rw [List.length_append, List.length_cons] at enough
  obtain ⟨depth, rfl⟩ := Nat.exists_eq_add_of_le' (show 1 ≤ depth by omega)
  have first := left depth (word "AND" :: (factor r ++ rest)) (by omega) (by simp)
  have second : (do spaced (keyword "AND"); conjunction depth)
      (join (word "AND" :: (factor r ++ rest))) = .ok (r, join rest) := by
    rw [bind_of_ok (keyword_join ⟨"AND", by decide⟩ _)]
    exact right depth rest (by omega) ends noAnd
  rw [List.append_assoc, List.cons_append, conjunction, bind_of_ok first,
    bind_of_ok (optional_of_ok second)]
  rfl

theorem readsWhole_of_readsFactor {c : Condition} (single : c.isOr = false)
    (operand : ReadsFactor c) : ReadsWhole c := by
  intro depth rest enough ends noAnd noOr
  have tokens : factor c = c.tokens := by simp [factor, enclose, single]
  rw [← tokens] at enough ⊢
  obtain ⟨depth, rfl⟩ := Nat.exists_eq_add_of_le' (show 1 ≤ depth by omega)
  have ended : Misses (spaced (keyword "OR")) (join rest) :=
    spaced_keyword_misses (w := ⟨"OR", by decide⟩) noOr
  rw [disjunction, bind_of_ok (operand depth rest (by omega) ends noAnd),
    bind_of_ok (optional_of_misses ended.bind)]
  rfl

theorem readsWhole_or {l r : Condition} (left : ReadsFactor l) (right : ReadsWhole r) :
    ReadsWhole (.or l r) := by
  intro depth rest enough ends noAnd noOr
  have tokens : (Condition.or l r).tokens = factor l ++ word "OR" :: r.tokens := rfl
  rw [tokens] at enough ⊢
  rw [List.length_append, List.length_cons] at enough
  obtain ⟨depth, rfl⟩ := Nat.exists_eq_add_of_le' (show 1 ≤ depth by omega)
  have first := left depth (word "OR" :: (r.tokens ++ rest)) (by omega) (by simp) (by simp)
  have second : (do spaced (keyword "OR"); disjunction depth)
      (join (word "OR" :: (r.tokens ++ rest))) = .ok (r, join rest) := by
    rw [bind_of_ok (keyword_join ⟨"OR", by decide⟩ _)]
    exact right depth rest (by omega) ends noAnd noOr
  rw [List.append_assoc, List.cons_append, disjunction, bind_of_ok first,
    bind_of_ok (optional_of_ok second)]
  rfl

theorem reads_of_printable {c : Condition} (printable : c.Printable) :
    ReadsAtom c ∧ ReadsFactor c ∧ ReadsWhole c := by
  have single {c : Condition} (operand : ReadsAtom c) (noAnd : c.isConnective = c.isOr)
      (noOr : c.isOr = false) : ReadsAtom c ∧ ReadsFactor c ∧ ReadsWhole c := by
    have factor := readsFactor_of_readsAtom noAnd operand
    exact ⟨operand, factor, readsWhole_of_readsFactor noOr factor⟩
  have predicate {c : Condition} (printable : c.Printable) (notNot : ∀ d, c ≠ .not d)
      (simple : c.isConnective = false) (noOr : c.isOr = false) :
      ReadsAtom c ∧ ReadsFactor c ∧ ReadsWhole c :=
    single (readsAtom_of_predicate printable notNot simple) (simple.trans noOr.symm) noOr
  induction printable with
  | compare left right => exact predicate (.compare left right) (by simp) rfl rfl
  | between e low high => exact predicate (.between e low high) (by simp) rfl rfl
  | like pattern e => exact predicate (.like pattern e) (by simp) rfl rfl
  | isNull e => exact predicate (.isNull e) (by simp) rfl rfl
  | not _ ih => exact single (readsAtom_not ih.1) rfl rfl
  | and _ _ ihl ihr =>
    have factor := readsFactor_and ihl.1 ihr.2.1
    have whole := readsWhole_of_readsFactor rfl factor
    exact ⟨readsAtom_of_readsWhole rfl whole, factor, whole⟩
  | or _ _ ihl ihr =>
    have whole := readsWhole_or ihl.2.1 ihr.2.2
    have atom := readsAtom_of_readsWhole rfl whole
    exact ⟨atom, readsFactor_of_readsAtom rfl atom, whole⟩

theorem condition_tokens {c : Condition} (printable : c.Printable)
    (ends : rest.head? ≠ some .plus) (noAnd : rest.head? ≠ some (word "AND"))
    (noOr : rest.head? ≠ some (word "OR")) :
    condition (join (c.tokens ++ rest)) = .ok (c, join rest) := by
  have text := Token.length_le_length_join (c.tokens ++ rest)
  rw [List.length_append] at text
  exact (reads_of_printable printable).2.2 _ rest (by omega) ends noAnd noOr

end Grammar

end PlainTables
