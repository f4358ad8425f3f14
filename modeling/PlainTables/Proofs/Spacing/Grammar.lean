import PlainTables.Proofs.Spacing.Literal

/-!
# The grammar with more blanks between tokens

Every reader of the grammar starts between two tokens, takes its tokens with the blanks around them, and leaves
what comes behind. The parts are followed one after the other in both texts.
-/

namespace PlainTables.Spacing

open Lexis Reader Grammar
open Text (isBlank)

/-- The next token of both texts. -/
abbrev Next : TextRel := Trimmed Near

theorem near_of_next {s s' : List Char} (related : Next s s') : Near s s' :=
  related.1

theorem trimmedCut_of_next {s s' : List Char} (related : Next s s') : Trimmed Cut s s' :=
  related.mono fun _ _ => cut_of_near

theorem cut_of_next {s s' : List Char} (related : Next s s') : Cut s s' :=
  cut_of_near (near_of_next related)

/-! ## Symbols and keywords -/

theorem char_respaced {P Q : TextRel} {c : Char} (printing : isBlank c = false)
    (respaced : ∀ s s', P s s' → ∃ before, Respaced IsGap before s s')
    (follow : ∀ t s', P (c :: t) s' → ∃ t', s' = c :: t' ∧ Q t t') :
    Alike P (fun _ => Q) (char c) (char c) := by
  refine (satisfy_alike ?_ respaced ?_).bind fun _ => .pure ()
  · intro d same
    rw [of_decide_eq_true same]
    exact printing
  · intro d t s' same related
    obtain rfl : d = c := of_decide_eq_true same
    exact follow t s' related

/-- No token goes on behind the character. -/
abbrev Symbol (c : Char) : Prop :=
  isBlank c = false ∧
    ∀ p ∈ TokenPlace.openPlaces, p.after c = .symbol ∨ p.after c = .free

theorem symbol_alike {c : Char} (symbol : Symbol c) :
    Alike (Trimmed Cut) (fun _ => Near) (char c) (char c) := by
  refine char_respaced symbol.1 (fun _ _ related => related.start.respaced) ?_
  rintro t s' ⟨⟨before, isOpen, respaced⟩, -, noGap⟩
  obtain ⟨t', rfl, behind⟩ := respaced.follow symbol.1 (.inr noGap)
  refine ⟨t', rfl, before ++ [c], ?_, behind⟩
  rw [TokenPlace.ofText_concat]
  rcases symbol.2 _ (TokenPlace.mem_openPlaces isOpen) with after | after
  · rw [after]
    rfl
  · rw [after]
    rfl

theorem spaced_symbol {c : Char} (symbol : Symbol c) :
    Alike Cut (fun _ => Next) (spaced (char c)) (spaced (char c)) :=
  spaced_alike spaces_cut (symbol_alike symbol) fun _ => spaces_near

theorem char_next {c : Char} (symbol : Symbol c) :
    Alike Next (fun _ => Near) (char c) (char c) :=
  (symbol_alike symbol).of_imp fun _ _ => trimmedCut_of_next

theorem symbol_next {c : Char} (symbol : Symbol c) :
    Alike Next (fun _ => Next) (spaced (char c)) (spaced (char c)) :=
  (spaced_symbol symbol).of_imp fun _ _ => cut_of_next

theorem dot_alike : Alike Behind (fun _ => AnyStart) (char '.') (char '.') := by
  refine char_respaced (by decide) (fun _ _ ⟨before, _, respaced⟩ => ⟨before, respaced⟩) ?_
  rintro t s' ⟨before, place, respaced⟩
  simp only [Bool.and_eq_true, Bool.not_eq_true'] at place
  obtain ⟨ends, notSymbol⟩ := place
  obtain ⟨t', rfl, behind⟩ := respaced.follow (by decide)
    (.inl (TokenPlace.admits_eq_false notSymbol (by decide)))
  have each : ∀ p ∈ TokenPlace.openPlaces, p.after '.' = .free := by decide
  have free : TokenPlace.ofText (before ++ ['.']) = .free := by
    rw [TokenPlace.ofText_concat, each _ (TokenPlace.mem_openPlaces (TokenPlace.isOpen_of_ends ends))]
  refine ⟨t', rfl, before ++ ['.'], trivial, ?_, behind, ?_⟩
  · rw [free]
    rfl
  · rw [free]
    exact .inl rfl

theorem token_next {α : Type} {p p' : Reader α} (alike : Alike AnyStart (fun _ => Behind) p p') :
    Alike Next (fun _ => Next) (spaced p) (spaced p') :=
  (spaced_cut alike).of_imp fun _ _ => cut_of_next

theorem spaced_keyword {k : String} (capitals : Capitals k) :
    Alike Cut (fun _ => Next) (spaced (keyword k)) (spaced (keyword k)) :=
  spaced_cut (keyword_alike capitals)

theorem keyword_next {k : String} (capitals : Capitals k) :
    Alike Next (fun _ => Next) (spaced (keyword k)) (spaced (keyword k)) :=
  token_next (keyword_alike capitals)

theorem takes_char_nonempty (c : Char) : Takes (· ≠ []) (char c) :=
  .bind_nonempty (.satisfy fun _ _ => List.cons_ne_nil _ _) fun _ => Closed.joins.pure ()

theorem takes_spaced_nonempty {α : Type} {p : Reader α} (takes : Takes (· ≠ []) p) :
    Takes (· ≠ []) (spaced p) := by
  refine takes_spaces.bind_of (fun _ => takes.bind_nonempty fun _ =>
    Closed.joins.bind takes_spaces fun _ => Closed.joins.pure _) ?_
  exact fun t u _ nonempty => List.append_ne_nil_of_right_ne_nil t nonempty

theorem char_misses_nil (c : Char) : Misses (char c) [] :=
  char_misses (by simp)

theorem spaced_misses_nil {α : Type} {p : Reader α} (misses : Misses p []) :
    Misses (spaced p) [] :=
  Misses.bind_of_ok (show spaces [] = .ok ((), []) from rfl) misses.bind

variable {α : Type} {item item' : Reader α}

theorem list_alike (alike : Alike Next (fun _ => Next) item item) (takes : Takes Closed item) :
    Alike Next (fun _ => Next) (separated (spaced (char ',')) item)
      (separated (spaced (char ',')) item) := by
  have shortens : Takes (· ≠ []) (do spaced (char ','); item) :=
    (takes_spaced_nonempty (takes_char_nonempty ',')).bind_nonempty fun _ => takes
  have ends : Misses (do spaced (char ','); item) [] :=
    (spaced_misses_nil (char_misses_nil ',')).bind
  have next : Alike Next (fun _ => Next) (do spaced (char ','); item) (do spaced (char ','); item) :=
    (symbol_next (by decide)).bind fun _ => alike
  exact alike.bind fun first => (next.many shortens shortens ends ends).map

/-! ## Operands -/

theorem columnRef_alike : Alike AnyStart (fun _ => Near) columnRef columnRef := by
  have part : Alike Behind (fun _ => Behind) (do char '.'; identifier) (do char '.'; identifier) :=
    dot_alike.bind fun _ => identifier_alike
  have shortens : Takes (· ≠ []) (do char '.'; identifier) :=
    (takes_char_nonempty '.').bind_nonempty fun _ => takes_identifier
  have ends : Misses (do char '.'; identifier) [] := (char_misses_nil '.').bind
  refine identifier_alike.bind fun first => ?_
  refine (part.many shortens shortens ends ends).bind fun rest => ?_
  cases rest with
  | nil => exact fun _ _ related => .ok (near_of_behind related)
  | cons second rest => exact fun _ _ related => .ok (near_of_behind related)

theorem literal_near : Alike Next (fun _ => Near) literal literal :=
  literal_alike.imp fun _ _ _ => near_of_behind

theorem argument_alike : Alike Cut (fun _ => Next) argument argument := by
  refine (spaced_symbol (by decide)).bind fun _ => ?_
  refine (literal_near.map.orElse (columnRef_alike.of_imp fun _ _ => start_of_near)).bind fun e => ?_
  exact ((spaced_symbol (by decide)).of_imp fun _ _ => cut_of_near).bind fun _ => .pure e

theorem cut_of_inWord {s s' : List Char} (related : InWord s s') : Cut s s' :=
  related.mono fun _ _ => TokenPlace.isOpen_of_isWord

theorem countAggregate_alike : Alike AnyStart (fun _ => Near) countAggregate countAggregate := by
  have after {c : Char} (symbol : Symbol c) :
      Alike Near (fun _ => Next) (spaced (char c)) (spaced (char c)) :=
    (spaced_symbol symbol).of_imp fun _ _ => cut_of_near
  refine (tag_alike (by decide)).bind fun _ => ?_
  refine (spaces_cut.of_imp fun _ _ => cut_of_inWord).bind fun _ => ?_
  refine (symbol_alike (by decide)).bind fun _ => ?_
  refine (((after (by decide)).bind fun _ => .pure _).orElse
    (spaced_near (columnRef_alike.of_imp fun _ _ => start_of_near)).map).bind fun e => ?_
  exact (char_next (by decide)).bind fun _ => .pure e

theorem aggregate_alike : Alike AnyStart (fun _ => Near) aggregate aggregate := by
  have named (f : Aggregate) {name : String} (capitals : Capitals name) :
      Alike AnyStart (fun _ => Near) (namedAggregate f name) (namedAggregate f name) :=
    (tag_alike capitals).bind fun _ =>
      (argument_alike.mono (fun _ _ => cut_of_inWord) fun _ _ _ => near_of_next).map
  exact countAggregate_alike.orElse <| (named _ (by decide)).orElse <|
    (named _ (by decide)).orElse <| (named _ (by decide)).orElse (named _ (by decide))

theorem sumOf_alike {P Q : TextRel} {n n' : Nat} {term term' : Reader Expression}
    (plus : Alike Q (fun _ => P) (char '+') (char '+'))
    (alike : Alike (Below n n' P) (fun _ => Q) term term') (takes : Takes Closed term)
    (takes' : Takes Closed term') : Alike (Below n n' P) (fun _ => Q) (sumOf term) (sumOf term') := by
  have below := alike.stays_below takes takes'
  have next : Alike (Below n n' Q) (fun _ => Below n n' Q) (do char '+'; term)
      (do char '+'; term') :=
    (plus.below (takes_char_nonempty '+') (takes_char_nonempty '+') n n').bind fun _ => below
  have shortens {term : Reader Expression} (takes : Takes Closed term) :
      Takes (· ≠ []) (do char '+'; term) :=
    (takes_char_nonempty '+').bind_nonempty fun _ => takes
  have ends (term : Reader Expression) : Misses (do char '+'; term) [] :=
    (char_misses_nil '+').bind
  refine below.bind fun first => ?_
  exact ((next.many (shortens takes) (shortens takes') (ends term) (ends term')).imp
    fun _ _ _ related => related.1).map

theorem plus_alike : Alike Next (fun _ => Near) (char '+') (char '+') :=
  char_next (by decide)

theorem term_alike (n n' : Nat) : Alike (Below n n' Near) (fun _ => Next) (term n) (term n') := by
  induction n generalizing n' with
  | zero =>
    rintro s s' ⟨-, short, -⟩
    exact absurd short (Nat.not_lt_zero _)
  | succ n ih =>
    cases n' with
    | zero =>
      rintro s s' ⟨-, -, short⟩
      exact absurd short (Nat.not_lt_zero _)
    | succ n' =>
      have start {s s' : List Char} (related : Below (n + 1) (n' + 1) Next s s') : AnyStart s s' :=
        start_of_near related.1
      refine spaced_alike (spaces_near.below takes_spaces takes_spaces _ _) ?_ fun _ => spaces_near
      refine (aggregate_alike.of_imp fun _ _ => start).orElse <|
        (literal_near.map.of_imp fun _ _ related => related.1).orElse <|
        Alike.orElse ?_ (columnRef_alike.of_imp fun _ _ => start)
      have opening : Alike Next (fun _ => Near) (char '(') (char '(') :=
        char_next (by decide)
      have closing : Alike Next (fun _ => Near) (char ')') (char ')') :=
        char_next (by decide)
      refine (opening.below_succ (takes_char_nonempty _) (takes_char_nonempty _) n n').bind
        fun _ => ?_
      refine (sumOf_alike plus_alike (ih n') (takes_term n) (takes_term n')).bind fun e => ?_
      exact closing.bind fun _ => .pure e

theorem expression_alike : Alike Near (fun _ => Next) expression expression := by
  intro s s' related
  exact sumOf_alike plus_alike (term_alike (s.length + 1) (s'.length + 1)) (takes_term _) (takes_term _) s s'
    ⟨related, Nat.lt_succ_self _, Nat.lt_succ_self _⟩

theorem expression_next : Alike Next (fun _ => Next) expression expression :=
  expression_alike.of_imp fun _ _ => near_of_next

end PlainTables.Spacing
