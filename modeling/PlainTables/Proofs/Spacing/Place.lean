import Mathlib.Data.List.TakeWhile
import PlainTables.Proofs.Text.Reader
import PlainTables.Statement.Lexis
import PlainTables.Text.Characters

/-!
# Blanks between tokens

Where blanks may be written into a statement. A text is followed character by character, which tells the tokens
and quoted texts apart, and a blank may be put next to an operator, a parenthesis or a comma.
-/

namespace PlainTables

open Lexis Reader
open Text (isBlank)

/-- What the characters that come next can still belong to. -/
inductive TokenPlace where
  | free
  | word
  | number
  | exponent
  | less
  | greater
  | equals
  | symbol
  | quoted (q : Char)
deriving DecidableEq

namespace TokenPlace

/-- The place behind a character that goes on with nothing. -/
def ofChar (c : Char) : TokenPlace :=
  if isWordChar c then (if c.isDigit then .number else .word)
  else match c with
    | '\'' | '"' => .quoted c
    | '<' => .less
    | '>' => .greater
    | '=' => .equals
    | '+' | '(' | ')' | ',' => .symbol
    | _ => .free

/-- The place behind one more character. Numbers have a sign in the exponent, and comparisons up to two
characters. -/
def after : TokenPlace → Char → TokenPlace
  | quoted q, c => if c = q then free else quoted q
  | word, c => if isWordChar c then word else ofChar c
  | number, c => if c = 'e' || c = 'E' then exponent else ofChar c
  | exponent, c => if c = '+' then free else ofChar c
  | less, c => if c = '=' || c = '>' then symbol else ofChar c
  | greater, c => if c = '=' then symbol else ofChar c
  | free, c | equals, c | symbol, c => ofChar c

def ofText (before : List Char) : TokenPlace :=
  before.foldl after free

def isOpen : TokenPlace → Bool
  | quoted _ => false
  | _ => true

def isSymbol : TokenPlace → Bool
  | less | greater | equals | symbol => true
  | _ => false

/-- No token goes on with the next character. -/
def ends : TokenPlace → Option Char → Bool
  | quoted _, _ => false
  | word, next | number, next | exponent, next => next.all (!isWordChar ·)
  | less, next => next != some '=' && next != some '>'
  | greater, next => next != some '='
  | free, _ | equals, _ | symbol, _ => true

/-- A blank may be put before the next character, without breaking a token, because there is a comparison, a
plus, a parenthesis or a comma in front of it or behind it. -/
def admits (p : TokenPlace) (next : Option Char) : Bool :=
  p.ends next && (p.isSymbol || next.any (ofChar · |>.isSymbol)) &&
    !(p = exponent && next = some '+')

end TokenPlace

/-- Words as a text without quotes has them: no keywords, and blanks between them. -/
inductive BareWords : List Char → Prop
  | word {w : List Char} : word w = .ok (w, []) → BareWords w
  | more {ws gap w : List Char} : BareWords ws → gap ≠ [] → (∀ c ∈ gap, c = ' ' ∨ c = '\t') →
      Lexis.word w = .ok (w, []) → BareWords (ws ++ gap ++ w)

def EndsInBareWords (before : List Char) : Prop :=
  ∃ front gap words, before = front ++ gap ++ words ∧ TokenPlace.ofText front = .equals ∧
    (∀ c ∈ gap, isSpace c) ∧ BareWords words

/-- Where a blank may be put without a change of meaning. The words on the right of an equals sign are not parted
from a plus or a parenthesis, in front of which they are no text but a name. -/
def IsGap (before : List Char) (next : Option Char) : Prop :=
  (TokenPlace.ofText before).admits next ∧
    ¬ (EndsInBareWords before ∧ (next = some '+' ∨ next = some '('))

/-- The second text is the first one with spaces put in where they are allowed behind the text before.
Blanks at the end do not count. -/
inductive Respaced (allowed : List Char → Option Char → Prop) :
    List Char → List Char → List Char → Prop
  | nil {before : List Char} : Respaced allowed before [] []
  | blanks {before s s' : List Char} : (TokenPlace.ofText before).isOpen → (∀ c ∈ s, isBlank c) →
      (∀ c ∈ s', isBlank c) → Respaced allowed before s s'
  | copy {before s s' : List Char} (c : Char) : Respaced allowed (before ++ [c]) s s' →
      Respaced allowed before (c :: s) (c :: s')
  | gap {before s s' : List Char} {b : Char} : isSpace b → allowed before s.head? →
      Respaced allowed before s s' → Respaced allowed before s (b :: s')

/-! ## Kinds of characters -/

theorem isBlank_of_isSpace {c : Char} (space : isSpace c) : isBlank c := by
  simp only [isSpace, Bool.or_eq_true, decide_eq_true_eq] at space
  rcases space with ((rfl | rfl) | rfl) | rfl <;> decide

def blankPoints : List Nat :=
  [9, 10, 11, 12, 13, 0x20, 0x85, 0xa0, 0x1680, 0x2000, 0x2001, 0x2002, 0x2003, 0x2004, 0x2005,
    0x2006, 0x2007, 0x2008, 0x2009, 0x200a, 0x2028, 0x2029, 0x202f, 0x205f, 0x3000]

theorem mem_blankPoints {c : Char} (blank : isBlank c) : c.toNat ∈ blankPoints := by
  simp only [isBlank, Bool.or_eq_true, Bool.and_eq_true, decide_eq_true_eq] at blank
  simp only [blankPoints, List.mem_cons, List.not_mem_nil, or_false]
  omega

theorem not_isWordChar_of_isBlank {c : Char} (blank : isBlank c) : isWordChar c = false := by
  have each : blankPoints.all (fun n => !isWordChar (Char.ofNat n)) := by decide +kernel
  have outside := List.all_eq_true.mp each c.toNat (mem_blankPoints blank)
  rw [Char.ofNat_toNat] at outside
  simpa using outside

def Printing (accepts : Char → Bool) : Prop :=
  ∀ c, accepts c → isBlank c = false

theorem printing_isWordChar : Printing isWordChar := by
  intro c wordChar
  cases blank : isBlank c with
  | false => rfl
  | true =>
    rw [not_isWordChar_of_isBlank blank] at wordChar
    cases wordChar

namespace TokenPlace

theorem ofText_concat (before : List Char) (c : Char) :
    ofText (before ++ [c]) = (ofText before).after c := by
  rw [ofText, List.foldl_append]
  rfl

theorem ofText_closing {before : List Char} {q : Char} (inside : ofText before = .quoted q) :
    ofText (before ++ [q]) = .free := by
  rw [ofText_concat, inside]
  exact if_pos rfl

theorem ofText_staying {before : List Char} {c q : Char} (inside : ofText before = .quoted q)
    (other : c ≠ q) : ofText (before ++ [c]) = .quoted q := by
  rw [ofText_concat, inside]
  exact if_neg other

theorem isOpen_of_ends {p : TokenPlace} {next : Option Char} (ends : p.ends next) : p.isOpen := by
  cases p with
  | quoted q => cases ends
  | _ => rfl

def openPlaces : List TokenPlace :=
  [free, word, number, exponent, less, greater, equals, symbol]

theorem mem_openPlaces {p : TokenPlace} (isOpen : p.isOpen) : p ∈ openPlaces := by
  cases p with
  | quoted q => cases isOpen
  | _ => decide

theorem admits_eq_false {p : TokenPlace} {c : Char} (behind : p.isSymbol = false)
    (other : (ofChar c).isSymbol = false) : p.admits (some c) = false := by
  simp [admits, behind, other]

theorem isSymbol_ofChar_of_isWordChar {c : Char} (wordChar : isWordChar c) :
    (ofChar c).isSymbol = false := by
  unfold ofChar
  rw [if_pos wordChar]
  split <;> rfl

theorem after_eq_ofChar {p : TokenPlace} {c : Char} (isOpen : p.isOpen)
    (outside : p = .word → isWordChar c = false) (letter : p = .number → c ≠ 'e' ∧ c ≠ 'E')
    (mark : c ∉ ['+', '=', '>']) : p.after c = ofChar c := by
  simp only [List.mem_cons, List.not_mem_nil, or_false, not_or] at mark
  obtain ⟨plus, equals, greater⟩ := mark
  cases p with
  | quoted q => cases isOpen
  | word => simp [after, outside rfl]
  | number => simp [after, letter rfl]
  | exponent => simp [after, plus]
  | less => simp [after, equals, greater]
  | greater => simp [after, equals]
  | free | equals | symbol => rfl

theorem after_of_isBlank {p : TokenPlace} (isOpen : p.isOpen) {c : Char} (blank : isBlank c) :
    p.after c = free := by
  have other {d : Char} (printing : isBlank d = false) : c ≠ d := by
    rintro rfl
    rw [blank] at printing
    cases printing
  have free : ofChar c = .free := by
    unfold ofChar
    rw [if_neg (by simp [not_isWordChar_of_isBlank blank])]
    split <;> first | rfl | exact absurd rfl (other (by decide))
  rw [← free]
  refine after_eq_ofChar isOpen (fun _ => not_isWordChar_of_isBlank blank)
    (fun _ => ⟨other (by decide), other (by decide)⟩) fun mark => ?_
  have printing : ['+', '=', '>'].all (!isBlank ·) := by decide
  exact other (by simpa using List.all_eq_true.mp printing c mark) rfl

theorem isQuote_of_ofChar {c q : Char} (quoted : ofChar c = .quoted q) : q = '\'' ∨ q = '"' := by
  unfold ofChar at quoted
  split at quoted
  · split at quoted <;> cases quoted
  · split at quoted <;> cases quoted
    · exact .inl rfl
    · exact .inr rfl

theorem isQuote_of_after {p : TokenPlace} {c q : Char} (quoted : p.after c = .quoted q) :
    p = .quoted q ∨ q = '\'' ∨ q = '"' := by
  cases p with
  | quoted d =>
    simp only [after] at quoted
    split at quoted
    · cases quoted
    · exact .inl quoted
  | free | equals | symbol => exact .inr (isQuote_of_ofChar quoted)
  | _ =>
    simp only [after] at quoted
    split at quoted
    · cases quoted
    · exact .inr (isQuote_of_ofChar quoted)

theorem isQuote_of_quoted {before : List Char} {q : Char} (quoted : ofText before = .quoted q) :
    q = '\'' ∨ q = '"' := by
  have behind (t : List Char) (p : TokenPlace) (quoted : t.foldl after p = .quoted q) :
      p = .quoted q ∨ q = '\'' ∨ q = '"' := by
    induction t generalizing p with
    | nil => exact .inl quoted
    | cons c t ih =>
      rcases ih (p.after c) quoted with inside | isQuote
      · exact isQuote_of_after inside
      · exact .inr isQuote
  exact (behind before free quoted).resolve_left nofun

theorem isOpen_append_blanks {t : List Char} (before : List Char) (blank : ∀ c ∈ t, isBlank c) :
    (ofText (before ++ t)).isOpen = (ofText before).isOpen := by
  induction t generalizing before with
  | nil => rw [List.append_nil]
  | cons c t ih =>
    obtain ⟨first, others⟩ := List.forall_mem_cons.mp blank
    rw [List.append_cons, ih _ others, ofText_concat]
    cases isOpen : (ofText before).isOpen with
    | true =>
      rw [after_of_isBlank isOpen first]
      rfl
    | false =>
      cases place : ofText before with
      | quoted q =>
        have other : c ≠ q := by
          rintro rfl
          rcases isQuote_of_quoted place with rfl | rfl <;> cases first
        simp only [after, other, if_false]
        rfl
      | _ =>
        rw [place] at isOpen
        cases isOpen

theorem ofText_append_blanks {before t : List Char} (isOpen : (ofText before).isOpen)
    (blank : ∀ c ∈ t, isBlank c) (nonempty : t ≠ []) : ofText (before ++ t) = free := by
  obtain ⟨front, c, rfl⟩ := (List.eq_nil_or_concat t).resolve_left nonempty
  rw [List.concat_eq_append] at blank ⊢
  have openFront : (ofText (before ++ front)).isOpen := by
    rw [isOpen_append_blanks before fun d mem => blank d (List.mem_append_left [c] mem)]
    exact isOpen
  rw [← List.append_assoc, ofText_concat]
  exact after_of_isBlank openFront (blank c (List.mem_append_right front List.mem_cons_self))

def isWord : TokenPlace → Bool
  | word | number | exponent => true
  | _ => false

theorem isOpen_of_isWord {p : TokenPlace} (isWord : p.isWord) : p.isOpen := by
  cases p with
  | quoted q => cases isWord
  | _ => rfl

theorem isSymbol_of_isWord {p : TokenPlace} (isWord : p.isWord) : p.isSymbol = false := by
  cases p with
  | word | number | exponent => rfl
  | _ => cases isWord

theorem ends_of_isWord {p : TokenPlace} (isWord : p.isWord) {s : List Char} (stops : Stops isWordChar s) :
    p.ends s.head? := by
  have all : s.head?.all (!isWordChar ·) := by
    rw [Option.all_eq_true]
    intro c first
    rw [stops c first]
    rfl
  cases p with
  | word | number | exponent => exact all
  | _ => cases isWord

theorem isWord_ofChar {c : Char} (wordChar : isWordChar c) : (ofChar c).isWord := by
  unfold ofChar
  rw [if_pos wordChar]
  split <;> rfl

theorem isWord_after {p : TokenPlace} (isOpen : p.isOpen) {c : Char} (wordChar : isWordChar c) :
    (p.after c).isWord := by
  have noMark : c ∉ ['+', '=', '>'] := by
    intro mark
    have rejected : ['+', '=', '>'].all (!isWordChar ·) := by decide
    have outside := List.all_eq_true.mp rejected c mark
    rw [wordChar] at outside
    cases outside
  cases p with
  | word =>
    simp only [after, wordChar, if_true]
    rfl
  | number =>
    simp only [after]
    split
    · rfl
    · exact isWord_ofChar wordChar
  | _ =>
    rw [after_eq_ofChar isOpen nofun nofun noMark]
    exact isWord_ofChar wordChar

end TokenPlace

namespace Respaced

variable {before s s' t t' : List Char} {c : Char}

theorem copies {allowed : List Char → Option Char → Prop} (before u : List Char)
    (respaced : Respaced allowed (before ++ u) s s') :
    Respaced allowed before (u ++ s) (u ++ s') := by
  induction u generalizing before with
  | nil =>
    rw [List.append_nil] at respaced
    exact respaced
  | cons c u ih =>
    refine .copy c (ih (before ++ [c]) ?_)
    rw [List.append_assoc]
    exact respaced

theorem follow_of_mem {d : Char} (respaced : Respaced IsGap before (c :: t) s') (mem : d ∈ c :: t)
    (printing : isBlank d = false)
    (noGap : (TokenPlace.ofText before).admits (some c) = false ∨ Stops isSpace s') :
    ∃ t', s' = c :: t' ∧ Respaced IsGap (before ++ [c]) t t' := by
  cases respaced with
  | blanks isOpen blank blank' =>
    have isBlank := blank d mem
    rw [printing] at isBlank
    cases isBlank
  | copy c respaced => exact ⟨_, rfl, respaced⟩
  | @gap _ _ t' b space isGap respaced =>
    rcases noGap with inside | stops
    · have admits : (TokenPlace.ofText before).admits (some c) := isGap.1
      rw [inside] at admits
      cases admits
    · have notSpace : isSpace b = false := stops b rfl
      rw [space] at notSpace
      cases notSpace

theorem follow (respaced : Respaced IsGap before (c :: t) s') (printing : isBlank c = false)
    (noGap : (TokenPlace.ofText before).admits (some c) = false ∨ Stops isSpace s') :
    ∃ t', s' = c :: t' ∧ Respaced IsGap (before ++ [c]) t t' :=
  respaced.follow_of_mem List.mem_cons_self printing noGap

theorem follow_back (respaced : Respaced IsGap before s (c :: t')) (printing : isBlank c = false) :
    ∃ t, s = c :: t ∧ Respaced IsGap (before ++ [c]) t t' := by
  cases respaced with
  | blanks isOpen blank blank' =>
    have isBlank := blank' c List.mem_cons_self
    rw [printing] at isBlank
    cases isBlank
  | copy c respaced => exact ⟨_, rfl, respaced⟩
  | gap space isGap respaced =>
    rw [isBlank_of_isSpace space] at printing
    cases printing

theorem follow_back_all {u r' : List Char} (respaced : Respaced IsGap before s (u ++ r'))
    (printing : ∀ c ∈ u, isBlank c = false) :
    ∃ r, s = u ++ r ∧ Respaced IsGap (before ++ u) r r' := by
  induction u generalizing before s with
  | nil => exact ⟨s, rfl, by rw [List.append_nil]; exact respaced⟩
  | cons c u ih =>
    obtain ⟨first, others⟩ := List.forall_mem_cons.mp printing
    obtain ⟨t, rfl, behind⟩ := follow_back respaced first
    obtain ⟨r, rfl, rest⟩ := ih behind others
    rw [List.append_assoc] at rest
    exact ⟨r, rfl, rest⟩

theorem stops {accepts : Char → Bool} (printing : Printing accepts)
    (respaced : Respaced IsGap before s s') (stops : Stops accepts s) : Stops accepts s' := by
  intro c first
  obtain ⟨t', rfl⟩ := List.head?_eq_some_iff.mp first
  cases accepted : accepts c with
  | false => rfl
  | true =>
    obtain ⟨t, rfl, -⟩ := respaced.follow_back (printing c accepted)
    have rejected := stops c rfl
    rw [accepted] at rejected
    cases rejected

/-- A run of characters among which nothing is put in is the same in both texts. -/
theorem takeWhile {accepts : Char → Bool} {inside : TokenPlace → Prop} (printing : Printing accepts)
    (step : ∀ p c, inside p → accepts c → p.admits (some c) = false ∧ inside (p.after c))
    (respaced : Respaced IsGap before s s') (start : inside (TokenPlace.ofText before)) :
    s'.takeWhile accepts = s.takeWhile accepts ∧
      inside (TokenPlace.ofText (before ++ s.takeWhile accepts)) ∧
      Respaced IsGap (before ++ s.takeWhile accepts) (s.dropWhile accepts)
        (s'.dropWhile accepts) := by
  have none {t : List Char} (stops : Stops accepts t) :
      t.takeWhile accepts = [] ∧ t.dropWhile accepts = t := by
    cases t with
    | nil => exact ⟨rfl, rfl⟩
    | cons c t =>
      have rejected : accepts c = false := stops c rfl
      simp [rejected]
  induction s generalizing before s' with
  | nil =>
    have stops : Stops accepts s' := respaced.stops printing nofun
    obtain ⟨takes, drops⟩ := none stops
    rw [takes, drops, List.takeWhile_nil, List.dropWhile_nil, List.append_nil]
    exact ⟨rfl, start, respaced⟩
  | cons c s ih =>
    cases accepted : accepts c with
    | false =>
      have stops : Stops accepts (c :: s) := by
        rintro _ ⟨⟩
        exact accepted
      obtain ⟨takes, drops⟩ := none stops
      obtain ⟨takes', drops'⟩ := none (respaced.stops printing stops)
      rw [takes, drops, takes', drops', List.append_nil]
      exact ⟨rfl, start, respaced⟩
    | true =>
      obtain ⟨noGap, inside⟩ := step _ c start accepted
      obtain ⟨t', rfl, behind⟩ := respaced.follow (printing c accepted) (.inl noGap)
      rw [← TokenPlace.ofText_concat] at inside
      obtain ⟨same, atEnd, rest⟩ := ih behind inside
      rw [List.takeWhile_cons_of_pos accepted, List.takeWhile_cons_of_pos accepted,
        List.dropWhile_cons_of_pos accepted, List.dropWhile_cons_of_pos accepted, same]
      rw [List.append_assoc] at atEnd rest
      exact ⟨rfl, atEnd, rest⟩

theorem dropWhile {accepts : Char → Bool} (spaces : ∀ c, isSpace c → accepts c)
    (blanks : ∀ c, accepts c → isBlank c) (respaced : Respaced IsGap before s s') :
    Respaced IsGap (before ++ s.takeWhile accepts) (s.dropWhile accepts) (s'.dropWhile accepts) := by
  induction respaced with
  | @nil before =>
    rw [List.takeWhile_nil, List.append_nil]
    exact .nil
  | @blanks before s s' isOpen blank blank' =>
    refine .blanks ?_ (fun c mem => blank c ((List.dropWhile_sublist _).mem mem))
      fun c mem => blank' c ((List.dropWhile_sublist _).mem mem)
    rw [TokenPlace.isOpen_append_blanks before fun c mem => blanks c (List.mem_takeWhile_imp mem)]
    exact isOpen
  | @copy before s s' c respaced ih =>
    cases accepted : accepts c with
    | false =>
      rw [List.takeWhile_cons_of_neg (by simp [accepted]),
        List.dropWhile_cons_of_neg (by simp [accepted]),
        List.dropWhile_cons_of_neg (by simp [accepted]), List.append_nil]
      exact .copy c respaced
    | true =>
      rw [List.takeWhile_cons_of_pos accepted, List.dropWhile_cons_of_pos accepted,
        List.dropWhile_cons_of_pos accepted]
      rw [List.append_assoc] at ih
      exact ih
  | @gap before s s' b space isGap respaced ih =>
    rw [List.dropWhile_cons_of_pos (spaces b space)]
    exact ih

theorem dropSpaces (respaced : Respaced IsGap before s s') :
    Respaced IsGap (before ++ s.takeWhile isSpace) (s.dropWhile isSpace) (s'.dropWhile isSpace) :=
  respaced.dropWhile (fun _ => id) fun _ => isBlank_of_isSpace

end Respaced

end PlainTables
