import PlainTables.Proofs.Spacing.Place
import PlainTables.Proofs.Statement.Lexis
import PlainTables.Proofs.Statement.Taking
import PlainTables.Proofs.Text.Simulation

/-!
# Tokens with more blanks between them

The readers of single tokens take the same from a text as from one with more blanks between its tokens. A token
is not broken by a blank, and what comes in front of it is taken away before it is read.
-/

namespace PlainTables.Spacing

open Lexis Reader
open Text (isBlank)

/-! ## Places in both texts -/

/-- Two rests behind the same text, of which the second has more blanks. -/
def At (holds : TokenPlace → Option Char → Bool) : TextRel := fun s s' =>
  ∃ before, holds (TokenPlace.ofText before) s.head? ∧ Respaced IsGap before s s'

abbrev Cut : TextRel := At fun p _ => p.isOpen

abbrev Near : TextRel := At TokenPlace.ends

/-- Behind a token that is more than a symbol. -/
abbrev Behind : TextRel := At fun p next => p.ends next && !p.isSymbol

abbrev InWord : TextRel := At fun p _ => p.isWord

def Trimmed (P : TextRel) : TextRel := fun s s' =>
  P s s' ∧ Stops isSpace s ∧ Stops isSpace s'

/-- Where a token starts, and no blank has been put in front of it. -/
def Start (holds : List Char → Prop) : TextRel := fun s s' =>
  ∃ before, holds before ∧ (TokenPlace.ofText before).isOpen ∧ Respaced IsGap before s s' ∧
    ((TokenPlace.ofText before).isSymbol = false ∨ Stops isSpace s')

abbrev AnyStart : TextRel := Start fun _ => True

variable {holds : TokenPlace → Option Char → Bool} {s s' : List Char}

theorem At.mono {holds' : TokenPlace → Option Char → Bool} (related : At holds s s')
    (wider : ∀ p next, holds p next → holds' p next) : At holds' s s' := by
  obtain ⟨before, isPlace, respaced⟩ := related
  exact ⟨before, wider _ _ isPlace, respaced⟩

theorem near_of_behind (related : Behind s s') : Near s s' :=
  related.mono fun _ _ isPlace => (Bool.and_eq_true_iff.mp isPlace).1

theorem cut_of_near (related : Near s s') : Cut s s' :=
  related.mono fun _ _ => TokenPlace.isOpen_of_ends

theorem Trimmed.mono {P P' : TextRel} (related : Trimmed P s s')
    (wider : ∀ s s', P s s' → P' s s') : Trimmed P' s s' :=
  ⟨wider _ _ related.1, related.2⟩

theorem Trimmed.start (related : Trimmed Cut s s') : AnyStart s s' := by
  obtain ⟨⟨before, isOpen, respaced⟩, -, stops⟩ := related
  exact ⟨before, trivial, isOpen, respaced, .inr stops⟩

theorem start_of_near (related : Trimmed Near s s') : AnyStart s s' :=
  (related.mono fun _ _ => cut_of_near).start

/-! ## Spaces -/

theorem stops_dropWhile (accepts : Char → Bool) (s : List Char) :
    Stops accepts (s.dropWhile accepts) := by
  intro c first
  have rejected := List.head?_dropWhile_not accepts s
  rw [Option.mem_def.mp first] at rejected
  simpa using rejected

/-- What holds at a place and where no token is begun holds behind the spaces. -/
theorem holds_dropSpaces {before : List Char} (opens : ∀ p next, holds p next → p.isOpen)
    (free : ∀ next, holds .free next) (isPlace : holds (TokenPlace.ofText before) s.head?) :
    holds (TokenPlace.ofText (before ++ s.takeWhile isSpace)) (s.dropWhile isSpace).head? := by
  cases s with
  | nil =>
    rw [List.takeWhile_nil, List.append_nil]
    exact isPlace
  | cons c s =>
    cases space : isSpace c with
    | false =>
      rw [List.takeWhile_cons_of_neg (by simp [space]), List.dropWhile_cons_of_neg (by simp [space]),
        List.append_nil]
      exact isPlace
    | true =>
      have blank : ∀ d ∈ (c :: s).takeWhile isSpace, isBlank d := fun d mem =>
        isBlank_of_isSpace (List.mem_takeWhile_imp mem)
      rw [TokenPlace.ofText_append_blanks (opens _ _ isPlace) blank (by simp [space])]
      exact free _

theorem spaces_alike (opens : ∀ p next, holds p next → p.isOpen)
    (free : ∀ next, holds .free next) :
    Alike (At holds) (fun _ => Trimmed (At holds)) spaces spaces := by
  rintro s s' ⟨before, isPlace, respaced⟩
  exact .ok ⟨⟨_, holds_dropSpaces opens free isPlace, respaced.dropSpaces⟩, stops_dropWhile _ s,
    stops_dropWhile _ s'⟩

theorem spaces_near : Alike Near (fun _ => Trimmed Near) spaces spaces :=
  spaces_alike (fun _ _ => TokenPlace.isOpen_of_ends) fun _ => rfl

theorem spaces_cut : Alike Cut (fun _ => Trimmed Cut) spaces spaces :=
  spaces_alike (fun _ _ => id) fun _ => rfl

variable {α : Type} {p p' : Reader α}

theorem spaced_alike {P P' : TextRel} {Q R : α → TextRel}
    (front : Alike P (fun _ => P') spaces spaces) (alike : Alike P' Q p p')
    (behind : ∀ a, Alike (Q a) (fun _ => R a) spaces spaces) :
    Alike P R (spaced p) (spaced p') := by
  refine front.bind fun _ => alike.bind fun a => (behind a).bind fun _ => ?_
  exact fun _ _ related => .ok related

theorem spaced_near (alike : Alike (Trimmed Near) (fun _ => Near) p p') :
    Alike Near (fun _ => Trimmed Near) (spaced p) (spaced p') :=
  spaced_alike spaces_near alike fun _ => spaces_near

theorem spaced_cut (alike : Alike AnyStart (fun _ => Behind) p p') :
    Alike Cut (fun _ => Trimmed Near) (spaced p) (spaced p') :=
  spaced_alike spaces_cut (alike.of_imp fun _ _ related => related.start) fun _ =>
    spaces_near.of_imp fun _ _ => near_of_behind

/-! ## Single characters -/

theorem stops_nil (accepts : Char → Bool) : Stops accepts [] := by
  rintro c ⟨⟩

theorem exists_cons_of_not_stops {accepts : Char → Bool} (first : ¬ Stops accepts s) :
    ∃ c t, s = c :: t ∧ accepts c := by
  cases s with
  | nil => exact absurd nofun first
  | cons c t =>
    refine ⟨c, t, rfl, ?_⟩
    by_contra rejected
    apply first
    rintro _ ⟨⟩
    exact Bool.not_eq_true _ ▸ rejected

theorem satisfy_alike {P Q : TextRel} {accepts : Char → Bool} (printing : Printing accepts)
    (respaced : ∀ s s', P s s' → ∃ before, Respaced IsGap before s s')
    (follow : ∀ c t s', accepts c → P (c :: t) s' → ∃ t', s' = c :: t' ∧ Q t t') :
    Alike P (fun _ => Q) (satisfy accepts) (satisfy accepts) := by
  intro s s' related
  by_cases stops : Stops accepts s
  · obtain ⟨before, respaced⟩ := respaced s s' related
    exact .of_misses (satisfy_misses stops) (satisfy_misses (respaced.stops printing stops))
  · obtain ⟨c, t, rfl, accepted⟩ := exists_cons_of_not_stops stops
    obtain ⟨t', rfl, left⟩ := follow c t s' accepted related
    rw [satisfy_of_pos accepted, satisfy_of_pos accepted]
    exact .ok left

theorem Start.respaced {holds : List Char → Prop} (related : Start holds s s') :
    ∃ before, Respaced IsGap before s s' := by
  obtain ⟨before, -, -, respaced, -⟩ := related
  exact ⟨before, respaced⟩

theorem Start.follow {holds : List Char → Prop} {c : Char} {t : List Char}
    (related : Start holds (c :: t) s') (printing : isBlank c = false)
    (other : (TokenPlace.ofChar c).isSymbol = false) :
    ∃ before t', s' = c :: t' ∧ holds before ∧ (TokenPlace.ofText before).isOpen ∧
      Respaced IsGap (before ++ [c]) t t' := by
  obtain ⟨before, held, isOpen, respaced, noGap⟩ := related
  obtain ⟨t', rfl, behind⟩ := respaced.follow printing
    (noGap.imp_left fun notSymbol => TokenPlace.admits_eq_false notSymbol other)
  exact ⟨before, t', rfl, held, isOpen, behind⟩

theorem Start.follow_word {holds : List Char → Prop} {c : Char} {t : List Char}
    (related : Start holds (c :: t) s') (wordChar : isWordChar c) :
    ∃ before t', s' = c :: t' ∧ holds before ∧ (TokenPlace.ofText (before ++ [c])).isWord ∧
      Respaced IsGap (before ++ [c]) t t' := by
  obtain ⟨before, t', rfl, held, isOpen, behind⟩ :=
    related.follow (printing_isWordChar c wordChar) (TokenPlace.isSymbol_ofChar_of_isWordChar wordChar)
  refine ⟨before, t', rfl, held, ?_, behind⟩
  rw [TokenPlace.ofText_concat]
  exact TokenPlace.isWord_after isOpen wordChar

/-! ## Words -/

theorem isWord_step (p : TokenPlace) (c : Char) (isWord : p.isWord) (wordChar : isWordChar c) :
    p.admits (some c) = false ∧ (p.after c).isWord :=
  ⟨TokenPlace.admits_eq_false (TokenPlace.isSymbol_of_isWord isWord)
    (TokenPlace.isSymbol_ofChar_of_isWordChar wordChar),
    TokenPlace.isWord_after (TokenPlace.isOpen_of_isWord isWord) wordChar⟩

theorem behind_of_isWord {before : List Char} (isWord : (TokenPlace.ofText before).isWord)
    (stops : Stops isWordChar s) (respaced : Respaced IsGap before s s') : Behind s s' := by
  have ends : (TokenPlace.ofText before).ends s.head? := TokenPlace.ends_of_isWord isWord stops
  exact ⟨before, by simp [ends, TokenPlace.isSymbol_of_isWord isWord], respaced⟩

theorem notFollowedBy_alike :
    Alike InWord (fun _ => Behind) (notFollowedBy isWordChar) (notFollowedBy isWordChar) := by
  rintro s s' ⟨before, isWord, respaced⟩
  by_cases stops : Stops isWordChar s
  · rw [notFollowedBy_of_stops stops,
      notFollowedBy_of_stops (respaced.stops printing_isWordChar stops)]
    exact .ok (behind_of_isWord isWord stops respaced)
  · obtain ⟨c, t, rfl, wordChar⟩ := exists_cons_of_not_stops stops
    obtain ⟨t', rfl, -⟩ := respaced.follow (printing_isWordChar c wordChar)
      (.inl (isWord_step _ c isWord wordChar).1)
    simp only [notFollowedBy, wordChar, if_true]
    exact .miss

theorem follow_letters {before u r : List Char} (isWord : (TokenPlace.ofText before).isWord)
    (letters : ∀ c ∈ u, isWordChar c) (respaced : Respaced IsGap before (u ++ r) s') :
    ∃ r', s' = u ++ r' ∧ (TokenPlace.ofText (before ++ u)).isWord ∧
      Respaced IsGap (before ++ u) r r' := by
  induction u generalizing before s' with
  | nil =>
    rw [List.append_nil]
    exact ⟨s', rfl, isWord, respaced⟩
  | cons c u ih =>
    obtain ⟨letter, others⟩ := List.forall_mem_cons.mp letters
    obtain ⟨noGap, isWord'⟩ := isWord_step _ c isWord letter
    rw [List.cons_append] at respaced
    obtain ⟨t', rfl, behind⟩ := respaced.follow (printing_isWordChar c letter) (.inl noGap)
    rw [← TokenPlace.ofText_concat] at isWord'
    obtain ⟨r', rfl, atEnd, rest⟩ := ih isWord' others behind
    rw [List.append_assoc] at atEnd rest
    exact ⟨r', rfl, atEnd, rest⟩

theorem tag_of_upper {w : String} {u r : List Char} (upper : u.map Char.toUpper = w.toList) :
    tag w (u ++ r) = .ok ((), r) := by
  have length : u.length = w.length := by
    rw [← String.length_toList, ← upper, List.length_map]
  simp [tag, ← length, upper]

abbrev Capitals (w : String) : Prop :=
  w.toList ≠ [] ∧ w.toList.all Char.isUpper

theorem tag_alike {w : String} (capitals : Capitals w) :
    Alike AnyStart (fun _ => InWord) (tag w) (tag w) := by
  intro s s' related
  have letters {u : List Char} (same : u.map Char.toUpper = w.toList) :
      ∀ c ∈ u, isWordChar c := by
    intro c mem
    refine isWordChar_of_toUpper (List.all_eq_true.mp capitals.2 _ ?_)
    rw [← same]
    exact List.mem_map_of_mem mem
  by_cases same : ∃ u r, s = u ++ r ∧ u.map Char.toUpper = w.toList
  · obtain ⟨u, r, rfl, same⟩ := same
    cases u with
    | nil => exact absurd same.symm capitals.1
    | cons c u =>
      obtain ⟨letter, others⟩ := List.forall_mem_cons.mp (letters same)
      obtain ⟨before, t', rfl, -, isWord, behind⟩ := related.follow_word letter
      obtain ⟨r', rfl, atEnd, rest⟩ := follow_letters isWord others behind
      rw [tag_of_upper same, ← List.cons_append, tag_of_upper same]
      exact .ok ⟨_, atEnd, rest⟩
  · have misses {t : List Char} (other : ¬ ∃ u r, t = u ++ r ∧ u.map Char.toUpper = w.toList) :
        Misses (tag w) t := by
      refine tag_misses fun same => other ?_
      exact ⟨_, _, (List.take_append_drop w.toList.length t).symm, same⟩
    refine .of_misses (misses same) (misses ?_)
    rintro ⟨u, r', rfl, upper⟩
    obtain ⟨before, respaced⟩ := related.respaced
    obtain ⟨r, rfl, -⟩ := respaced.follow_back_all fun c mem =>
      printing_isWordChar c (letters upper c mem)
    exact same ⟨u, r, rfl, upper⟩

theorem keyword_alike {k : String} (capitals : Capitals k) :
    Alike AnyStart (fun _ => Behind) (keyword k) (keyword k) :=
  (tag_alike capitals).bind fun _ => notFollowedBy_alike

theorem word_cons {c : Char} {t : List Char} (letter : (Text.isAlphabetic c || c = '_') = true) :
    word (c :: t) = if isKeyword (c :: t.takeWhile isWordChar) then .error (.miss (c :: t))
      else .ok (c :: t.takeWhile isWordChar, t.dropWhile isWordChar) := by
  have taken : anyWord (c :: t) = .ok (c :: t.takeWhile isWordChar, t.dropWhile isWordChar) := by
    rw [anyWord, bind_of_ok (satisfy_of_pos letter)]
    rfl
  simp only [word, filterMap, taken]
  cases isKeyword (c :: t.takeWhile isWordChar) with
  | false => rfl
  | true => rfl

theorem isWordChar_of_letter {c : Char} (letter : (Text.isAlphabetic c || c = '_') = true) :
    isWordChar c := by
  rw [Bool.or_eq_true] at letter
  rw [isWordChar, Bool.or_eq_true]
  apply letter.imp_left
  intro alphabetic
  unfold Text.isAlphanumeric
  split
  · next latin =>
    rw [Text.isAlphabetic, if_pos latin] at alphabetic
    rw [Char.isAlphanum, alphabetic]
    rfl
  · rw [alphabetic]
    rfl

/-- A word is read from both texts, and its rest stands behind what was in front of it and the word. -/
theorem word_alike {holds holds' : List Char → Prop}
    (grows : ∀ before w, holds before → word w = .ok (w, []) → holds' (before ++ w)) :
    Alike (Start holds) (fun _ s s' => ∃ before, holds' before ∧ (TokenPlace.ofText before).isWord ∧
      Stops isWordChar s ∧ Respaced IsGap before s s') word word := by
  intro s s' related
  by_cases stops : Stops (fun c => Text.isAlphabetic c || c = '_') s
  · obtain ⟨before, respaced⟩ := related.respaced
    refine .of_misses (word_misses_of_stops stops) (word_misses_of_stops (respaced.stops ?_ stops))
    exact fun c letter => printing_isWordChar c (isWordChar_of_letter letter)
  · obtain ⟨c, t, rfl, letter⟩ := exists_cons_of_not_stops stops
    obtain ⟨before, t', rfl, held, isWord, behind⟩ :=
      related.follow_word (isWordChar_of_letter letter)
    obtain ⟨same, atEnd, rest⟩ := behind.takeWhile printing_isWordChar isWord_step isWord
    rw [word_cons letter, word_cons letter, same]
    split
    · exact .miss
    · next known =>
      refine .ok ⟨_, ?_, atEnd, stops_dropWhile _ t, rest⟩
      rw [List.append_assoc]
      apply grows before _ held
      have run : ∀ d ∈ t.takeWhile isWordChar, isWordChar d := fun d mem =>
        List.mem_takeWhile_imp mem
      rw [List.singleton_append, word_cons letter, List.takeWhile_eq_self_iff.mpr run, if_neg known,
        List.dropWhile_eq_nil_iff.mpr run]

/-! ## Names and texts -/

theorem follow_inside {before t : List Char} {c q : Char}
    (inside : TokenPlace.ofText before = .quoted q) (respaced : Respaced IsGap before (c :: t) s') :
    ∃ t', s' = c :: t' ∧ Respaced IsGap (before ++ [c]) t t' := by
  cases respaced with
  | blanks isOpen =>
    rw [inside] at isOpen
    cases isOpen
  | copy c behind => exact ⟨_, rfl, behind⟩
  | gap space isGap =>
    have admits := isGap.1
    rw [inside] at admits
    cases admits

theorem eq_nil_inside {before : List Char} {q : Char} (inside : TokenPlace.ofText before = .quoted q)
    (respaced : Respaced IsGap before [] s') : s' = [] := by
  cases respaced with
  | nil => rfl
  | blanks isOpen =>
    rw [inside] at isOpen
    cases isOpen
  | gap space isGap =>
    have admits := isGap.1
    rw [inside] at admits
    cases admits

theorem closeQuote?_of_end {q : Char} {r : List Char} (stops : Stops (· = q) r) :
    closeQuote? q (q :: r) = some ([], r) := by
  cases r with
  | nil => simp [closeQuote?]
  | cons d r =>
    have other : d ≠ q := of_decide_eq_false (stops d rfl)
    simp [closeQuote?, other]

def IsQuote (q : Char) : Prop :=
  q = '\'' ∨ q = '"'

theorem IsQuote.printing {q : Char} (isQuote : IsQuote q) : Printing (· = q) := by
  intro c same
  rw [of_decide_eq_true same]
  rcases isQuote with rfl | rfl <;> decide

theorem IsQuote.after {q : Char} (isQuote : IsQuote q) {p : TokenPlace} (isOpen : p.isOpen) :
    p.after q = .quoted q := by
  have mem := TokenPlace.mem_openPlaces isOpen
  rcases isQuote with rfl | rfl
  · have each : ∀ p ∈ TokenPlace.openPlaces, p.after '\'' = .quoted '\'' := by decide
    exact each p mem
  · have each : ∀ p ∈ TokenPlace.openPlaces, p.after '"' = .quoted '"' := by decide
    exact each p mem

theorem IsQuote.opens {q : Char} (isQuote : IsQuote q) {before : List Char}
    (isOpen : (TokenPlace.ofText before).isOpen) : TokenPlace.ofText (before ++ [q]) = .quoted q := by
  rw [TokenPlace.ofText_concat, isQuote.after isOpen]

theorem closeQuote?_alike {q : Char} (isQuote : IsQuote q) {before : List Char}
    (inside : TokenPlace.ofText before = .quoted q) (respaced : Respaced IsGap before s s') :
    (closeQuote? q s = none ∧ closeQuote? q s' = none) ∨
      ∃ cs r r', closeQuote? q s = some (cs, r) ∧ closeQuote? q s' = some (cs, r') ∧
        Behind r r' := by
  have ended {front r r' : List Char} (inside : TokenPlace.ofText front = .quoted q)
      (behind : Respaced IsGap (front ++ [q]) r r') (stops : Stops (· = q) r) :
      closeQuote? q (q :: r) = some ([], r) ∧ closeQuote? q (q :: r') = some ([], r') ∧
        Behind r r' := by
    refine ⟨closeQuote?_of_end stops,
      closeQuote?_of_end (behind.stops isQuote.printing stops), _, ?_, behind⟩
    rw [TokenPlace.ofText_closing inside]
    rfl
  fun_induction closeQuote? q s generalizing before s' with
  | case1 =>
    obtain rfl := eq_nil_inside inside respaced
    exact .inl ⟨rfl, rfl⟩
  | case2 =>
    obtain ⟨t', rfl, behind⟩ := follow_inside inside respaced
    obtain ⟨-, same, left⟩ := ended inside behind (stops_nil _)
    exact .inr ⟨[], [], t', rfl, same, left⟩
  | case3 c other =>
    obtain ⟨t', rfl, behind⟩ := follow_inside inside respaced
    obtain rfl := eq_nil_inside (TokenPlace.ofText_staying inside other) behind
    exact .inl ⟨rfl, by simp [closeQuote?, other]⟩
  | case4 s ih =>
    -- The first of two quotes closes the text for once, and the second one opens it again.
    obtain ⟨t', rfl, behind⟩ := follow_inside inside respaced
    have noGap : TokenPlace.admits .free (some q) = false := by
      rcases isQuote with rfl | rfl <;> decide
    rw [← TokenPlace.ofText_closing inside] at noGap
    obtain ⟨u', rfl, rest⟩ := behind.follow (isQuote.printing q (by simp)) (.inl noGap)
    have again : TokenPlace.ofText (before ++ [q] ++ [q]) = .quoted q :=
      isQuote.opens (by rw [TokenPlace.ofText_closing inside]; rfl)
    rcases ih again rest with ⟨none, none'⟩ | ⟨cs, r, r', closed, closed', left⟩
    · exact .inl ⟨by simp [none], by simp [closeQuote?, none']⟩
    · exact .inr ⟨q :: cs, r, r', by simp [closed], by simp [closeQuote?, closed'], left⟩
  | case5 d s other =>
    obtain ⟨t', rfl, behind⟩ := follow_inside inside respaced
    have stops : Stops (· = q) (d :: s) := by
      rintro _ ⟨⟩
      exact decide_eq_false other
    obtain ⟨-, same, left⟩ := ended inside behind stops
    exact .inr ⟨[], d :: s, t', rfl, same, left⟩
  | case6 c d s other ih =>
    obtain ⟨t', rfl, behind⟩ := follow_inside inside respaced
    have inside' := TokenPlace.ofText_staying inside other
    obtain ⟨u', rfl, -⟩ := follow_inside inside' behind
    rcases ih inside' behind with ⟨none, none'⟩ | ⟨cs, r, r', closed, closed', left⟩
    · exact .inl ⟨by simp [none], by simp [closeQuote?, other, none']⟩
    · exact .inr ⟨c :: cs, r, r', by simp [closed], by simp [closeQuote?, other, closed'], left⟩

theorem quoted_alike {q : Char} (isQuote : IsQuote q) :
    Alike AnyStart (fun _ => Behind) (quoted q) (quoted q) := by
  intro s s' related
  by_cases first : Stops (· = q) s
  · have misses {t : List Char} (stops : Stops (· = q) t) : Misses (quoted q) t :=
      quoted_misses fun head => absurd (stops q head) (by simp)
    obtain ⟨before, respaced⟩ := related.respaced
    exact .of_misses (misses first) (misses (respaced.stops isQuote.printing first))
  · obtain ⟨c, t, rfl, same⟩ := exists_cons_of_not_stops first
    obtain rfl : c = q := of_decide_eq_true same
    have noSymbol : (TokenPlace.ofChar c).isSymbol = false := by
      rcases isQuote with rfl | rfl <;> decide
    obtain ⟨before, t', rfl, -, isOpen, behind⟩ :=
      related.follow (isQuote.printing c same) noSymbol
    have inside : TokenPlace.ofText (before ++ [c]) = .quoted c := isQuote.opens isOpen
    simp only [quoted, if_true]
    rcases closeQuote?_alike isQuote inside behind with
      ⟨none, none'⟩ | ⟨cs, r, r', closed, closed', left⟩
    · rw [none, none']
      exact .miss
    · rw [closed, closed']
      exact .ok left

theorem anyWord_alike : Alike AnyStart (fun _ => Behind) word word :=
  (@word_alike (fun _ => True) (fun _ => True) fun _ _ _ _ => trivial).imp fun _ _ _ left => by
    obtain ⟨_, _, isWord, stops, respaced⟩ := left
    exact behind_of_isWord isWord stops respaced

theorem identifier_alike : Alike AnyStart (fun _ => Behind) identifier identifier :=
  (quoted_alike (.inr rfl)).orElse anyWord_alike.map

theorem textLiteral_alike : Alike AnyStart (fun _ => Behind) textLiteral textLiteral :=
  quoted_alike (.inl rfl)

theorem takeWhile1_alike {P : TextRel} {accepts : Char → Bool} (inside : TokenPlace → Prop)
    (printing : Printing accepts)
    (step : ∀ p c, inside p → accepts c → p.admits (some c) = false ∧ inside (p.after c))
    (respaced : ∀ s s', P s s' → ∃ before, Respaced IsGap before s s')
    (first : ∀ c t s', accepts c → P (c :: t) s' → ∃ before t', s' = c :: t' ∧
      inside (TokenPlace.ofText (before ++ [c])) ∧ Respaced IsGap (before ++ [c]) t t') :
    Alike P (fun _ s s' => ∃ before, inside (TokenPlace.ofText before) ∧ Stops accepts s ∧
      Respaced IsGap before s s') (takeWhile1 accepts) (takeWhile1 accepts) := by
  intro s s' related
  by_cases stops : Stops accepts s
  · obtain ⟨before, respaced⟩ := respaced s s' related
    exact .of_misses (takeWhile1_misses stops) (takeWhile1_misses (respaced.stops printing stops))
  · obtain ⟨c, t, rfl, accepted⟩ := exists_cons_of_not_stops stops
    obtain ⟨before, t', rfl, start, behind⟩ := first c t s' accepted related
    obtain ⟨same, atEnd, rest⟩ := behind.takeWhile printing step start
    simp only [takeWhile1, filterMap, takeWhile, List.takeWhile_cons_of_pos accepted,
      List.dropWhile_cons_of_pos accepted, same]
    exact .ok ⟨_, atEnd, stops_dropWhile _ t, rest⟩

/-- A character of the name of a file goes on with a word or stands for itself. -/
theorem after_path {p : TokenPlace} (isOpen : p.isOpen) {c : Char}
    (accepted : (isWordChar c || c = '.' || c = '-' || c = '/' || c = '\\') = true) :
    isBlank c = false ∧ (TokenPlace.ofChar c).isSymbol = false ∧
      ((p.after c).isWord ∨ p.after c = .free) := by
  simp only [Bool.or_eq_true, decide_eq_true_eq] at accepted
  have itself (d : Char) (printing : isBlank d = false ∧ (TokenPlace.ofChar d).isSymbol = false)
      (each : ∀ p ∈ TokenPlace.openPlaces, p.after d = .free) :
      isBlank d = false ∧ (TokenPlace.ofChar d).isSymbol = false ∧
        ((p.after d).isWord ∨ p.after d = .free) :=
    ⟨printing.1, printing.2, .inr (each p (TokenPlace.mem_openPlaces isOpen))⟩
  rcases accepted with (((wordChar | rfl) | rfl) | rfl) | rfl
  · exact ⟨printing_isWordChar c wordChar, TokenPlace.isSymbol_ofChar_of_isWordChar wordChar,
      .inl (TokenPlace.isWord_after isOpen wordChar)⟩
  all_goals exact itself _ (by decide) (by decide)

theorem tableName_alike : Alike AnyStart (fun _ => Behind) tableName tableName := by
  have inside_of {p : TokenPlace} (after : p.isWord ∨ p = .free) : p.isOpen ∧ p.isSymbol = false := by
    rcases after with isWord | rfl
    · exact ⟨TokenPlace.isOpen_of_isWord isWord, TokenPlace.isSymbol_of_isWord isWord⟩
    · exact ⟨rfl, rfl⟩
  have path : Alike AnyStart (fun _ => Behind)
      (takeWhile1 fun c => isWordChar c || c = '.' || c = '-' || c = '/' || c = '\\')
      (takeWhile1 fun c => isWordChar c || c = '.' || c = '-' || c = '/' || c = '\\') := by
    refine (takeWhile1_alike (fun p => p.isWord ∨ p = .free) (fun c accepted =>
      (after_path (p := .free) rfl accepted).1) ?_ (fun _ _ => Start.respaced) ?_).imp ?_
    · intro p c inside accepted
      obtain ⟨isOpen, notSymbol⟩ := inside_of inside
      obtain ⟨-, other, after⟩ := after_path isOpen accepted
      exact ⟨TokenPlace.admits_eq_false notSymbol other, after⟩
    · intro c t s' accepted related
      obtain ⟨printing, other, -⟩ := after_path (p := .free) rfl accepted
      obtain ⟨before, t', rfl, -, isOpen, behind⟩ := related.follow printing other
      refine ⟨before, t', rfl, ?_, behind⟩
      rw [TokenPlace.ofText_concat]
      exact (after_path isOpen accepted).2.2
    · rintro _ s s' ⟨before, isWord | free, stops, respaced⟩
      · refine behind_of_isWord isWord (fun c first => ?_) respaced
        have rejected := stops c first
        simp only [Bool.or_eq_false_iff] at rejected
        exact rejected.1.1.1.1
      · refine ⟨before, ?_, respaced⟩
        rw [free]
        rfl
  exact (quoted_alike (.inr rfl)).orElse path.filterMap

end PlainTables.Spacing
