import PlainTables.Proofs.Statement.Lexis
import PlainTables.Proofs.Statement.Printing
import PlainTables.Statement.Grammar

/-!
# Reading written operands

The alternatives of a term are told apart by the first token. A sum is read as the list of what it
adds, which goes down its left side.
-/

namespace PlainTables.Grammar

open Reader Lexis
open Token (join tail word enclose)

variable {rest : List Token}

/-! ## Leaves -/

theorem many_of_misses {α : Type} {p : Reader α} {s : List Char} (misses : Misses p s) :
    many p s = .ok ([], s) :=
  manyUpTo_of_items (fun _ => s) (List.forall_mem_nil _) misses _ (Nat.zero_le _)

theorem columnRef_name (s : String) (rest : List Token) :
    columnRef ((Token.name s).spelling ++ tail rest) = .ok (.column none s, tail rest) := by
  have noDot : Misses (do char '.'; identifier) (tail rest) :=
    Misses.bind (char_misses fun dot => by
      have stops : Stops (· = '.') (tail rest) := Token.stops_tail (by decide) rest
      exact absurd (stops '.' dot) (by decide))
  rw [columnRef, bind_of_ok (identifier_name s rest), bind_of_ok (many_of_misses noDot)]
  rfl

theorem literal_misses {c : Char} {s : List Char} (notQuote : c ≠ '\'') (notMinus : c ≠ '-')
    (notDigit : c.isDigit = false) (notNull : Misses (keyword "NULL") (c :: s)) :
    Misses literal (c :: s) := by
  have notText : Misses textLiteral (c :: s) := quoted_misses (by simpa using notQuote)
  have notNumber : Misses numberLiteral (c :: s) := by
    refine numberLiteral_misses fun d first => ?_
    obtain rfl : c = d := Option.some.inj first
    simp [notMinus, notDigit]
  exact Misses.orElse notText.bind (Misses.orElse notNumber notNull.bind)

theorem literal_misses_name (s : String) (rest : List Token) :
    Misses literal (join (.name s :: rest)) := by
  have notNull : Misses (keyword "NULL") (join (.name s :: rest)) :=
    keyword_misses (w := ⟨"NULL", by decide⟩) (by simp)
  rw [Token.join_cons] at notNull ⊢
  exact literal_misses (by decide) (by decide) (by decide) notNull

theorem literal_misses_opening (rest : List Token) :
    Misses literal (join (.opening :: rest)) := by
  have notNull : Misses (keyword "NULL") (join (.opening :: rest)) :=
    keyword_misses (w := ⟨"NULL", by decide⟩) (by simp)
  rw [Token.join_cons] at notNull ⊢
  exact literal_misses (by decide) (by decide) (by decide) notNull

theorem literal_token {v : Value} (printable : v.Printable) (rest : List Token) :
    literal (v.token.spelling ++ tail rest) = .ok (v, tail rest) := by
  cases printable with
  | text s => exact orElse_of_ok (bind_of_ok (textLiteral_text s rest))
  | integer i =>
    have notText : Misses textLiteral ((Token.integer i).spelling ++ tail rest) := by
      refine quoted_misses ?_
      rw [Token.spelling, Numeral.intText_eq]
      split
      · simp
      · obtain ⟨c, ds, digits, digit⟩ := Numeral.toDigits_eq_cons i.toInt.natAbs
        simpa [digits] using Numeral.ne_of_isDigit digit (by decide)
    exact (orElse_of_misses notText.bind).trans (orElse_of_ok (numberLiteral_integer i rest))
  | null =>
    have notText : Misses textLiteral ((word "NULL").spelling ++ tail rest) :=
      quoted_misses (by simp [Token.spelling])
    have notNumber : Misses numberLiteral ((word "NULL").spelling ++ tail rest) := by
      refine numberLiteral_misses fun c first => ?_
      obtain rfl : 'N' = c := Option.some.inj first
      decide
    exact (orElse_of_misses notText.bind).trans ((orElse_of_misses notNumber).trans
      (bind_of_ok (keyword_keyword ⟨"NULL", by decide⟩ rest)))

theorem simple_tokens {e : Expression} (simple : e.Simple) (rest : List Token) :
    ∃ token, e.tokens = [token] ∧
      orElse (do return .literal (← literal)) columnRef (token.spelling ++ tail rest) =
        .ok (e, tail rest) := by
  cases simple with
  | literal printable =>
    exact ⟨_, rfl, orElse_of_ok (bind_of_ok (literal_token printable rest))⟩
  | column s =>
    have notLiteral := literal_misses_name s rest
    rw [Token.join_cons] at notLiteral
    exact ⟨_, rfl, (orElse_of_misses notLiteral.bind).trans (columnRef_name s rest)⟩

/-! ## Aggregates -/

theorem spaced_char {c : Char} (token : Token) (spelling : token.spelling = [c])
    (rest : List Token) : spaced (char c) (join (token :: rest)) = .ok ((), join rest) :=
  spaced_token (by rw [spelling]; exact char_cons c _)

theorem join_call (f : Aggregate) (rest : List Token) :
    join (.call f :: rest) = f.name.toList ++ join (.opening :: rest) := by
  rw [Token.join_cons, Token.join_cons]
  exact List.append_assoc ..

theorem argument_simple {e : Expression} (simple : e.Simple) (rest : List Token) :
    argument (join (.opening :: (e.tokens ++ .closing :: rest))) = .ok (e, join rest) := by
  obtain ⟨token, tokens, taken⟩ := simple_tokens simple (.closing :: rest)
  have opening := spaced_char (c := '(') .opening rfl (e.tokens ++ .closing :: rest)
  have closing : spaced (char ')') (tail (.closing :: rest)) = .ok ((), join rest) :=
    (spaced_tail _ _).trans (spaced_char .closing rfl rest)
  rw [argument, bind_of_ok opening, tokens, List.singleton_append, Token.join_cons, bind_of_ok taken,
    bind_of_ok closing]
  rfl

/-- What comes after COUNT( is the star or a column, and then the parenthesis is closed. -/
theorem countAggregate_call {e : Expression} {token : Token} (rest : List Token)
    (taken : orElse (do spaced (char '*'); return .countRows)
      (do return .aggregate .count (← spaced columnRef)) (tail (token :: .closing :: rest)) =
        .ok (e, join (.closing :: rest))) :
    countAggregate (join (.call .count :: token :: .closing :: rest)) = .ok (e, tail rest) := by
  have name : tag "COUNT" (join (.call .count :: token :: .closing :: rest)) =
      .ok ((), join (.opening :: token :: .closing :: rest)) := by
    rw [join_call]
    exact tag_append (by decide)
  have gap : spaces (join (.opening :: token :: .closing :: rest)) =
      .ok ((), join (.opening :: token :: .closing :: rest)) := by
    rw [spaces, Token.dropWhile_join]
  have opening : char '(' (join (.opening :: token :: .closing :: rest)) =
      .ok ((), tail (token :: .closing :: rest)) := by
    rw [Token.join_cons]
    exact char_cons '(' _
  have closing : char ')' (join (.closing :: rest)) = .ok ((), tail rest) := by
    rw [Token.join_cons]
    exact char_cons ')' _
  rw [countAggregate, bind_of_ok name, bind_of_ok gap, bind_of_ok opening, bind_of_ok taken,
    bind_of_ok closing]
  rfl

theorem namedAggregate_call {f : Aggregate} {e : Expression} (simple : e.Simple)
    (rest : List Token) :
    namedAggregate f f.name (join (.call f :: (e.tokens ++ .closing :: rest))) =
      .ok (.aggregate f e, join rest) := by
  have name : tag f.name (join (.call f :: (e.tokens ++ .closing :: rest))) =
      .ok ((), join (.opening :: (e.tokens ++ .closing :: rest))) := by
    rw [join_call]
    exact tag_append (by cases f <;> decide)
  rw [namedAggregate, bind_of_ok name, bind_of_ok (argument_simple simple rest)]
  rfl

theorem aggregate_misses {c : Char} {s : List Char} (other : c.toUpper ∉ ['C', 'S', 'A', 'M']) :
    Misses aggregate (c :: s) := by
  simp only [List.mem_cons, List.not_mem_nil, or_false, not_or] at other
  have misses {name : String} {d : Char} (head : name.toList.head? = some d) (ne : c.toUpper ≠ d) :
      Misses (tag name) (c :: s) := by
    refine tag_misses_of_head ?_ ?_
    · rw [head]
      exact fun same => ne (Option.some.inj same).symm
    · intro empty
      rw [empty] at head
      cases head
  exact Misses.orElse (misses rfl other.1).bind
    (Misses.orElse (misses rfl other.2.1).bind
      (Misses.orElse (misses rfl other.2.2.1).bind
        (Misses.orElse (misses rfl other.2.2.2).bind (misses rfl other.2.2.2).bind)))

theorem aggregate_misses_literal {v : Value} (printable : v.Printable) (rest : List Token) :
    Misses aggregate (join (v.token :: rest)) := by
  rw [Token.join_cons]
  cases printable with
  | null => exact aggregate_misses (by decide)
  | text s => exact aggregate_misses (by decide)
  | integer i =>
    rw [Value.token, Token.spelling, Numeral.intText_eq]
    split
    · exact aggregate_misses (by decide)
    · obtain ⟨c, ds, digits, digit⟩ := Numeral.toDigits_eq_cons i.toInt.natAbs
      rw [digits]
      refine aggregate_misses ?_
      rw [toUpper_of_isDigit digit]
      have other (d : Char) (high : 57 < d.toNat) : c ≠ d := Numeral.ne_of_isDigit digit (.inr high)
      simp [other]

theorem tag_misses_call {f g : Aggregate} (other : f ≠ g) (rest : List Token) :
    Misses (tag g.name) (join (.call f :: rest)) := by
  rw [join_call]
  refine tag_misses ?_
  cases f <;> cases g <;> simp_all [Aggregate.name]

theorem aggregate_of_namedAggregate {f : Aggregate} (named : f ≠ .count) {e : Expression}
    {r : List Char} (taken : namedAggregate f f.name (join (.call f :: rest)) = .ok (e, r)) :
    aggregate (join (.call f :: rest)) = .ok (e, r) := by
  have misses {g : Aggregate} (other : f ≠ g) :
      Misses (namedAggregate g g.name) (join (.call f :: rest)) :=
    (tag_misses_call other rest).bind
  have notCount : Misses countAggregate (join (.call f :: rest)) :=
    (tag_misses_call (g := .count) named rest).bind
  refine (orElse_of_misses notCount).trans ?_
  cases f with
  | count => exact absurd rfl named
  | sum => exact orElse_of_ok taken
  | avg =>
    refine (orElse_of_misses (misses (g := .sum) (by decide))).trans ?_
    exact orElse_of_ok taken
  | min =>
    refine (orElse_of_misses (misses (g := .sum) (by decide))).trans ?_
    refine (orElse_of_misses (misses (g := .avg) (by decide))).trans ?_
    exact orElse_of_ok taken
  | max =>
    refine (orElse_of_misses (misses (g := .sum) (by decide))).trans ?_
    refine (orElse_of_misses (misses (g := .avg) (by decide))).trans ?_
    exact (orElse_of_misses (misses (g := .min) (by decide))).trans taken

theorem count_name (s : String) (rest : List Token) :
    aggregate (join (.call .count :: .name s :: .closing :: rest)) =
      .ok (.aggregate .count (.column none s), tail rest) := by
  refine orElse_of_ok (countAggregate_call rest ?_)
  have notStar : Misses (spaced (char '*')) (tail (.name s :: .closing :: rest)) := by
    rw [Misses, spaced_tail]
    refine spaced_misses (char_misses ?_)
    rw [Token.join_cons]
    simp [Token.spelling, Token.between]
  have column : spaced columnRef (tail (.name s :: .closing :: rest)) = _ :=
    (spaced_tail _ _).trans (spaced_token (columnRef_name s (.closing :: rest)))
  rw [orElse_of_misses notStar.bind, bind_of_ok column]
  rfl

theorem count_star (rest : List Token) :
    aggregate (join (.call .count :: .star :: .closing :: rest)) = .ok (.countRows, tail rest) := by
  refine orElse_of_ok (countAggregate_call rest (orElse_of_ok ?_))
  have star : spaced (char '*') (tail (.star :: .closing :: rest)) = _ :=
    (spaced_tail _ _).trans (spaced_char .star rfl (.closing :: rest))
  rw [bind_of_ok star]
  rfl

/-! ## Terms and sums -/

theorem sumOf_tail (depth : Nat) (tokens : List Token) :
    sumOf (term (depth + 1)) (tail tokens) = sumOf (term (depth + 1)) (join tokens) :=
  bind_congr_left (spaced_tail _ tokens)

/-- A term in parentheses is told apart from the other alternatives by the parenthesis. -/
theorem term_enclosed {e : Expression} {depth : Nat} {tokens : List Token}
    (inside : sumOf (term depth) (join (tokens ++ .closing :: rest)) =
      .ok (e, join (.closing :: rest))) :
    term (depth + 1) (join (.opening :: (tokens ++ .closing :: rest))) = .ok (e, join rest) := by
  have notAggregate : Misses aggregate (join (.opening :: (tokens ++ .closing :: rest))) := by
    rw [Token.join_cons]
    exact aggregate_misses (by decide)
  have notLiteral := literal_misses_opening (tokens ++ .closing :: rest)
  have opening : char '(' (join (.opening :: (tokens ++ .closing :: rest))) =
      .ok ((), tail (tokens ++ .closing :: rest)) := by
    rw [Token.join_cons]
    exact char_cons '(' _
  have inside' : sumOf (term depth) (tail (tokens ++ .closing :: rest)) =
      .ok (e, join (.closing :: rest)) := by
    cases depth with
    | zero => cases inside
    | succ depth => rwa [sumOf_tail]
  have closing : char ')' (join (.closing :: rest)) = .ok ((), tail rest) := by
    rw [Token.join_cons]
    exact char_cons ')' _
  refine spaced_join ?_ (Token.dropWhile_tail rest)
  rw [orElse_of_misses notAggregate, orElse_of_misses notLiteral.bind]
  refine orElse_of_ok ?_
  rw [bind_of_ok opening, bind_of_ok inside', bind_of_ok closing]
  rfl

theorem term_leaf {e : Expression} (printable : e.Printable) (leaf : e.isSum = false) (depth : Nat)
    (rest : List Token) : term (depth + 1) (join (e.tokens ++ rest)) = .ok (e, join rest) := by
  cases printable with
  | add => cases leaf
  | countRows => exact spaced_join (orElse_of_ok (count_star rest)) (Token.dropWhile_tail rest)
  | count s => exact spaced_join (orElse_of_ok (count_name s rest)) (Token.dropWhile_tail rest)
  | @aggregate f e named simple =>
    have taken := namedAggregate_call (f := f) simple rest
    rw [Expression.tokens, List.cons_append, List.append_assoc]
    exact spaced_join (orElse_of_ok (aggregate_of_namedAggregate named taken))
      (Token.dropWhile_join rest)
  | simple simple =>
    cases simple with
    | column s =>
      have notAggregate : Misses aggregate (join (.name s :: rest)) := by
        rw [Token.join_cons]
        exact aggregate_misses (by decide)
      have notLiteral := literal_misses_name s rest
      have notOpening : Misses (char '(') (join (.name s :: rest)) := by
        rw [Token.join_cons]
        exact char_misses (by simp [Token.spelling, Token.between])
      change spaced _ (join (.name s :: rest)) = _
      refine spaced_token ?_
      rw [← Token.join_cons, orElse_of_misses notAggregate, orElse_of_misses notLiteral.bind,
        orElse_of_misses notOpening.bind, Token.join_cons]
      exact columnRef_name s rest
    | @literal v printable =>
      have notAggregate := aggregate_misses_literal printable rest
      change spaced _ (join (v.token :: rest)) = _
      refine spaced_token ?_
      rw [← Token.join_cons, orElse_of_misses notAggregate, Token.join_cons]
      exact orElse_of_ok (bind_of_ok (literal_token printable rest))

/-- The leaf at the left end of a sum. -/
def leftmost : Expression → Expression
  | .add l _ => leftmost l
  | e => e

/-- What is added to the leftmost leaf, in order. -/
def addends : Expression → List Expression
  | .add l r => addends l ++ [r]
  | _ => []

theorem foldl_addends (e : Expression) : (addends e).foldl .add (leftmost e) = e := by
  induction e with
  | add l r ihl _ => rw [addends, leftmost, List.foldl_append, ihl, List.foldl_cons, List.foldl_nil]
  | _ => rfl

theorem tokens_eq_addends (e : Expression) :
    e.tokens = (leftmost e).tokens ++
      (addends e).flatMap fun r => .plus :: enclose r.isSum r.tokens := by
  induction e with
  | add l r ihl _ =>
    rw [Expression.tokens, ihl, addends, leftmost, List.flatMap_append, List.flatMap_singleton,
      List.append_assoc]
  | _ => exact (List.append_nil _).symm

theorem isSum_leftmost (e : Expression) : (leftmost e).isSum = false := by
  induction e with
  | add l r ihl _ => exact ihl
  | _ => rfl

/-- Terms of this depth can be the operand, in its parentheses if it is a sum. -/
def ReadsOperand (depth : Nat) (e : Expression) : Prop :=
  ∀ rest, term (depth + 1) (join (enclose e.isSum e.tokens ++ rest)) = .ok (e, join rest)

theorem length_flatMap_le {α : Type} (items : List α) (f : α → List Token)
    (nonempty : ∀ x, f x ≠ []) : items.length ≤ (items.flatMap f).length := by
  induction items with
  | nil => exact Nat.le_refl 0
  | cons x items ih =>
    have first := List.length_pos_iff.mpr (nonempty x)
    rw [List.flatMap_cons, List.length_append, List.length_cons]
    omega

theorem many_of_items {α : Type} {p : Reader α} {tokens : α → List Token} {items : List α}
    (nonempty : ∀ x, tokens x ≠ [])
    (each : ∀ x ∈ items, ∀ xs : List α,
      p (join (tokens x ++ (xs.flatMap tokens ++ rest))) = .ok (x, join (xs.flatMap tokens ++ rest)))
    (misses : Misses p (join rest)) :
    many p (join (items.flatMap tokens ++ rest)) = .ok (items, join rest) := by
  refine manyUpTo_of_items (fun xs => join (xs.flatMap tokens ++ rest)) ?_ misses _ ?_
  · intro x mem xs
    rw [List.flatMap_cons, List.append_assoc]
    exact each x mem xs
  · have count := length_flatMap_le items tokens nonempty
    have text := Token.length_le_length_join (items.flatMap tokens ++ rest)
    rw [List.length_append] at text
    omega

theorem sumOf_tokens {e : Expression} {depth : Nat} (first : ReadsOperand depth (leftmost e))
    (others : ∀ r ∈ addends e, ReadsOperand depth r) (rest : List Token)
    (ends : rest.head? ≠ some .plus) :
    sumOf (term (depth + 1)) (join (e.tokens ++ rest)) = .ok (e, join rest) := by
  have leaf (rest : List Token) : term (depth + 1) (join ((leftmost e).tokens ++ rest)) =
      .ok (leftmost e, join rest) := by
    have taken := first rest
    rwa [isSum_leftmost] at taken
  have each : ∀ r ∈ addends e, ∀ rest,
      (do char '+'; term (depth + 1)) (join (Token.plus :: enclose r.isSum r.tokens ++ rest)) =
        .ok (r, join rest) := by
    intro r mem rest
    have plus : char '+' (join (.plus :: (enclose r.isSum r.tokens ++ rest))) =
        .ok ((), tail (enclose r.isSum r.tokens ++ rest)) := by
      rw [Token.join_cons]
      exact char_cons '+' _
    rw [List.cons_append, bind_of_ok plus, term, spaced_tail, ← term]
    exact others r mem rest
  have noPlus : Misses (do char '+'; term (depth + 1)) (join rest) :=
    (char_misses_join rfl ends).bind
  have added := many_of_items (fun _ => List.cons_ne_nil _ _) (fun r mem _ => each r mem _) noPlus
  rw [tokens_eq_addends, List.append_assoc, sumOf, bind_of_ok (leaf _), bind_of_ok added,
    foldl_addends]
  rfl

theorem readsOperand_leaf {e : Expression} (printable : e.Printable) (leaf : e.isSum = false)
    (depth : Nat) : ReadsOperand depth e := by
  intro rest
  rw [leaf]
  exact term_leaf printable leaf depth rest

/-- A term of enough depth can be any operand of a sum, and the sum itself in parentheses. -/
theorem readsOperand {e : Expression} (printable : e.Printable) (depth : Nat) :
    (e.tokens.length ≤ depth + 1 → ReadsOperand depth (leftmost e) ∧
      ∀ r ∈ addends e, ReadsOperand depth r) ∧
    ((enclose e.isSum e.tokens).length ≤ depth + 1 → ReadsOperand depth e) := by
  induction e generalizing depth with
  | add l r ihl ihr =>
    obtain ⟨left, right⟩ : l.Printable ∧ r.Printable := by
      cases printable with
      | add left right => exact ⟨left, right⟩
      | simple simple => cases simple
    have operands (depth : Nat) (enough : (Expression.add l r).tokens.length ≤ depth + 1) :
        ReadsOperand depth (leftmost (.add l r)) ∧
          ∀ o ∈ addends (.add l r), ReadsOperand depth o := by
      rw [Expression.tokens, List.length_append, List.length_cons] at enough
      obtain ⟨first, others⟩ := (ihl left depth).1 (by omega)
      refine ⟨first, ?_⟩
      intro o mem
      rcases List.mem_append.mp mem with inLeft | last
      · exact others o inLeft
      · rw [List.mem_singleton.mp last]
        exact (ihr right depth).2 (by omega)
    refine ⟨operands depth, ?_⟩
    intro enough rest
    have length : (enclose (Expression.add l r).isSum (Expression.add l r).tokens).length =
        (Expression.add l r).tokens.length + 2 := by simp [enclose, Expression.isSum]
    rw [length] at enough
    match depth, enough with
    | depth + 1, enough =>
      obtain ⟨first, others⟩ := operands depth (by omega)
      have inside := sumOf_tokens first others (.closing :: rest) (by simp)
      have enclosed := term_enclosed inside
      simpa [enclose, Expression.isSum] using enclosed
  | _ =>
    exact ⟨fun _ => ⟨readsOperand_leaf printable rfl depth, by simp [addends]⟩,
      fun _ => readsOperand_leaf printable rfl depth⟩

theorem expression_tokens {e : Expression} (printable : e.Printable) (rest : List Token)
    (ends : rest.head? ≠ some .plus) :
    expression (join (e.tokens ++ rest)) = .ok (e, join rest) := by
  have text := Token.length_le_length_join (e.tokens ++ rest)
  rw [List.length_append] at text
  obtain ⟨first, others⟩ := (readsOperand printable (join (e.tokens ++ rest)).length).1 (by omega)
  exact sumOf_tokens first others rest ends

end PlainTables.Grammar
