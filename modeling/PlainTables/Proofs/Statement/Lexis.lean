import Mathlib.Data.List.TakeWhile
import PlainTables.Proofs.Statement.Token

/-!
# Reading single tokens

Every reader of words, names and literals takes the token that it is for, and keywords miss all other
tokens.
-/

namespace PlainTables.Lexis

open Reader Text

variable {α : Type} {p : Reader α} {a : α} {tokens rest : List Token}

theorem spaced_join {r : List Char} (taken : p (Token.join tokens) = .ok (a, r))
    (after : r.dropWhile isSpace = Token.join rest) :
    spaced p (Token.join tokens) = .ok (a, Token.join rest) := by
  have before : spaces (Token.join tokens) = .ok ((), Token.join tokens) := by
    rw [spaces, Token.dropWhile_join]
  rw [spaced, within, bind_of_ok before, bind_of_ok taken]
  have behind : spaces r = .ok ((), Token.join rest) := by rw [spaces, after]
  rw [bind_of_ok behind]
  rfl

theorem spaced_token {token : Token}
    (taken : p (token.spelling ++ Token.tail rest) = .ok (a, Token.tail rest)) :
    spaced p (Token.join (token :: rest)) = .ok (a, Token.join rest) :=
  spaced_join (by rw [Token.join_cons, taken]) (Token.dropWhile_tail rest)

theorem spaced_tail (p : Reader α) (tokens : List Token) :
    spaced p (Token.tail tokens) = spaced p (Token.join tokens) := by
  have tail : spaces (Token.tail tokens) = .ok ((), Token.join tokens) := by
    rw [spaces, Token.dropWhile_tail]
  have join : spaces (Token.join tokens) = .ok ((), Token.join tokens) := by
    rw [spaces, Token.dropWhile_join]
  rw [spaced, within, bind_of_ok tail, bind_of_ok join]

theorem spaced_misses (misses : Misses p (Token.join tokens)) :
    Misses (spaced p) (Token.join tokens) := by
  have before : spaces (Token.join tokens) = .ok ((), Token.join tokens) := by
    rw [spaces, Token.dropWhile_join]
  exact Misses.bind_of_ok before misses.bind

/-! ## Symbols and keywords -/

theorem char_misses_join {c : Char} {symbol : Token} (isSymbol : Token.symbol? c = some symbol)
    (other : tokens.head? ≠ some symbol) : Misses (char c) (Token.join tokens) := by
  refine char_misses fun first => ?_
  cases tokens with
  | nil => cases first
  | cons token tokens =>
    obtain ⟨d, letters, spelling, -⟩ := token.spelling_cons
    rw [Token.join_cons, spelling] at first
    refine other (congrArg some (Token.eq_of_symbol? isSymbol ?_))
    rw [spelling]
    exact first

theorem isUpper_iff (c : Char) : c.isUpper = true ↔ 65 ≤ c.toNat ∧ c.toNat ≤ 90 := by
  have range : c.isUpper = decide (c.val ≥ 'A'.val ∧ c.val ≤ 'Z'.val) := rfl
  simp [range, UInt32.le_iff_toNat_le]

theorem isLower_iff (c : Char) : c.isLower = true ↔ 97 ≤ c.toNat ∧ c.toNat ≤ 122 := by
  have range : c.isLower = (decide (c.val ≥ 'a'.val) && decide (c.val ≤ 'z'.val)) := rfl
  simp [range, UInt32.le_iff_toNat_le]

theorem toUpper_of_not_isLower {c : Char} (other : ¬ (97 ≤ c.toNat ∧ c.toNat ≤ 122)) :
    c.toUpper = c :=
  dif_neg other

theorem isWordChar_of_toUpper {c : Char} (upper : c.toUpper.isUpper = true) :
    isWordChar c = true := by
  have letter : 65 ≤ c.toNat ∧ c.toNat ≤ 90 ∨ 97 ≤ c.toNat ∧ c.toNat ≤ 122 := by
    by_cases lower : 97 ≤ c.toNat ∧ c.toNat ≤ 122
    · exact .inr lower
    · rw [toUpper_of_not_isLower lower] at upper
      exact .inl ((isUpper_iff c).mp upper)
  have latin : c.toNat < 128 := by omega
  have alphanumeric : c.isAlphanum = true := by
    have parts : c.isAlphanum = (c.isUpper || c.isLower || c.isDigit) := rfl
    rw [parts, Bool.or_eq_true, Bool.or_eq_true, isUpper_iff, isLower_iff]
    exact .inl letter
  simp [isWordChar, Text.isAlphanumeric, latin, alphanumeric]

theorem upper_keyword : ∀ w ∈ keywords, w.toList ≠ [] ∧
    ∀ c ∈ w.toList, c.isUpper = true ∧ c.toUpper = c ∧ isWordChar c = true := by
  have checked : ∀ w ∈ keywords, w.toList ≠ [] ∧
      w.toList.all (fun c => c.isUpper && c.toUpper = c && isWordChar c) = true := by decide
  intro w known
  obtain ⟨nonempty, letters⟩ := checked w known
  refine ⟨nonempty, fun c mem => ?_⟩
  simpa [and_assoc] using List.all_eq_true.mp letters c mem

theorem keyword_misses_of_word {w : String} {s : List Char}
    (upper : ∀ c ∈ w.toList, c.isUpper = true)
    (other : (s.takeWhile isWordChar).map Char.toUpper ≠ w.toList) : Misses (keyword w) s := by
  by_cases same : (s.take w.length).map Char.toUpper = w.toList
  · have taken : tag w s = .ok ((), s.drop w.length) := by rw [tag, if_pos same]
    refine Misses.bind_of_ok taken ?_
    have letters : ∀ c ∈ s.take w.length, isWordChar c = true := by
      intro c mem
      refine isWordChar_of_toUpper (upper _ ?_)
      rw [← same]
      exact List.mem_map_of_mem mem
    cases next : s.drop w.length with
    | nil =>
      rw [← List.take_append_drop w.length s, next, List.takeWhile_append_of_pos letters,
        List.takeWhile_nil, List.append_nil] at other
      exact absurd same other
    | cons c r =>
      by_cases wordChar : isWordChar c = true
      · exact ⟨c :: r, by simp [notFollowedBy, wordChar]⟩
      · rw [← List.take_append_drop w.length s, next, List.takeWhile_append_of_pos letters,
          List.takeWhile_cons, if_neg wordChar, List.append_nil] at other
        exact absurd same other
  · exact Misses.bind ⟨s, by rw [tag, if_neg same]⟩

theorem takeWhile_join (token : Token) (tokens : List Token) :
    (Token.join (token :: tokens)).takeWhile isWordChar = token.spelling.takeWhile isWordChar := by
  have stops : (Token.tail tokens).takeWhile isWordChar = [] := by
    have notWord : Stops isWordChar (Token.tail tokens) := Token.stops_tail (by decide) tokens
    cases behind : Token.tail tokens with
    | nil => rfl
    | cons c r => exact List.takeWhile_cons_of_neg (by simp [notWord c (by rw [behind]; rfl)])
  rw [Token.join_cons, List.takeWhile_append, stops, List.append_nil]
  split
  · next whole => exact ((List.takeWhile_prefix _).eq_of_length whole).symm
  · rfl

theorem takeWhile_keyword (w : Keyword) :
    (Token.keyword w).spelling.takeWhile isWordChar = w.val.toList := by
  have letters : ∀ c ∈ w.val.toList, isWordChar c = true := fun c mem =>
    ((upper_keyword w.val w.property).2 c mem).2.2
  exact List.takeWhile_eq_self_iff.mpr letters

theorem toUpper_of_isDigit {c : Char} (digit : c.isDigit = true) : c.toUpper = c := by
  have range := Numeral.toNat_of_isDigit digit
  exact toUpper_of_not_isLower (by omega)

theorem not_isUpper_of_isDigit {c : Char} (digit : c.isDigit = true) : c.isUpper = false := by
  have range := Numeral.toNat_of_isDigit digit
  rw [Bool.eq_false_iff, Ne, isUpper_iff]
  omega

theorem not_isAlphabetic_of_isDigit {c : Char} (digit : c.isDigit = true) :
    (isAlphabetic c || c = '_') = false := by
  have range := Numeral.toNat_of_isDigit digit
  have latin : c.toNat < 128 := by omega
  have notUpper := not_isUpper_of_isDigit digit
  have notLower : c.isLower = false := by
    rw [Bool.eq_false_iff, Ne, isLower_iff]
    omega
  have notLetter : c.isAlpha = false := by
    have parts : c.isAlpha = (c.isUpper || c.isLower) := rfl
    rw [parts, notUpper, notLower]
    rfl
  have notLine : c ≠ '_' := Numeral.ne_of_isDigit digit (by decide)
  simp [isAlphabetic, latin, notLetter, notLine]

theorem leading_ne {token : Token} (w : Keyword) (other : token ≠ .keyword w) :
    (token.spelling.takeWhile isWordChar).map Char.toUpper ≠ w.val.toList := by
  obtain ⟨nonempty, upper⟩ := upper_keyword w.val w.property
  -- A token that starts with no word character has no word at its front.
  have unworded {c : Char} {letters : List Char} (spelling : token.spelling = c :: letters)
      (notWord : isWordChar c = false) :
      (token.spelling.takeWhile isWordChar).map Char.toUpper ≠ w.val.toList := by
    rw [spelling, List.takeWhile_cons_of_neg (by simp [notWord])]
    exact nonempty.symm
  have digits (n : Nat) :
      ((Nat.toDigits 10 n).takeWhile isWordChar).map Char.toUpper ≠ w.val.toList := by
    obtain ⟨c, letters, spelling, digit⟩ := Numeral.toDigits_eq_cons n
    rw [spelling, List.takeWhile_cons]
    split
    · intro same
      have first : c.toUpper ∈ w.val.toList := by
        rw [← same]
        exact List.mem_cons_self
      have letter := (upper c.toUpper first).1
      rw [toUpper_of_isDigit digit] at letter
      exact absurd letter (by simp [not_isUpper_of_isDigit digit])
    · exact nonempty.symm
  cases token with
  | keyword v =>
    rw [takeWhile_keyword]
    have self : v.val.toList.map Char.toUpper = v.val.toList := by
      refine (List.map_congr_left fun c mem => ?_).trans (List.map_id _)
      exact ((upper_keyword v.val v.property).2 c mem).2.1
    rw [self]
    intro same
    exact other (congrArg Token.keyword (Subtype.ext (String.toList_inj.mp same)))
  | comparison operator => cases operator <;> exact unworded rfl (by decide)
  | comma => exact unworded rfl (by decide)
  | plus => exact unworded rfl (by decide)
  | star => exact unworded rfl (by decide)
  | opening => exact unworded rfl (by decide)
  | closing => exact unworded rfl (by decide)
  | name s => exact unworded rfl (by decide)
  | text s => exact unworded rfl (by decide)
  | integer i =>
    rw [Token.spelling, Numeral.intText_eq]
    split
    · rw [List.takeWhile_cons_of_neg (by decide)]
      exact nonempty.symm
    · exact digits _
  | count n => exact digits _
  | call function =>
    have word : ∀ w ∈ keywords, (function.name.toList ++ ['(']).takeWhile isWordChar |>.map
        Char.toUpper |> (· ≠ w.toList) := by
      cases function <;> decide
    exact word w.val w.property

theorem keyword_misses {w : Keyword} (other : tokens.head? ≠ some (.keyword w)) :
    Misses (keyword w.val) (Token.join tokens) := by
  have upper := (upper_keyword w.val w.property).2
  refine keyword_misses_of_word (fun c mem => (upper c mem).1) ?_
  cases tokens with
  | nil => exact (upper_keyword w.val w.property).1.symm
  | cons token tokens =>
    rw [takeWhile_join]
    exact leading_ne w fun same => other (by rw [same]; rfl)

theorem keyword_keyword (w : Keyword) (rest : List Token) :
    keyword w.val ((Token.keyword w).spelling ++ Token.tail rest) = .ok ((), Token.tail rest) := by
  have upper := (upper_keyword w.val w.property).2
  have self : w.val.toList.map Char.toUpper = w.val.toList :=
    (List.map_congr_left fun c mem => (upper c mem).2.1).trans (List.map_id _)
  rw [keyword, Token.spelling, bind_of_ok (tag_append self)]
  exact notFollowedBy_of_stops (Token.stops_tail (by decide) rest)

theorem keyword_join (w : Keyword) (rest : List Token) :
    spaced (keyword w.val) (Token.join (.keyword w :: rest)) = .ok ((), Token.join rest) :=
  spaced_token (keyword_keyword w rest)

/-! ## Names and texts -/

/-- The closing quote is the first one that is not written twice. -/
theorem closeQuote?_doubled {q : Char} (s : List Char) {r : List Char} (stops : r.head? ≠ some q) :
    closeQuote? q (doubled q s ++ q :: r) = some (s, r) := by
  induction s with
  | nil =>
    cases r with
    | nil => simp [doubled, closeQuote?]
    | cons c r =>
      have other : c ≠ q := by simpa using stops
      simp [doubled, closeQuote?, other]
  | cons c s ih =>
    rw [doubled_cons, List.append_assoc]
    by_cases isQuote : c = q
    · rw [if_pos isQuote, isQuote]
      simp [closeQuote?, ih]
    · rw [if_neg isQuote]
      have nonempty : doubled q s ++ q :: r ≠ [] := by simp
      obtain ⟨d, others, parts⟩ := List.exists_cons_of_ne_nil nonempty
      rw [parts] at ih ⊢
      simp [closeQuote?, isQuote, ih]

theorem quoted_between {q : Char} (space : q ≠ ' ') (s : String) (rest : List Token) :
    quoted q (Token.between q s ++ Token.tail rest) = .ok (s, Token.tail rest) := by
  have stops : (Token.tail rest).head? ≠ some q := by
    cases rest with
    | nil => simp [Token.tail]
    | cons token rest => simpa [Token.tail] using space.symm
  have closed := closeQuote?_doubled s.toList stops
  simp only [Token.between, List.cons_append, List.append_assoc, List.nil_append, quoted, if_true,
    closed, String.ofList_toList]

theorem quoted_misses {q : Char} {s : List Char} (other : s.head? ≠ some q) :
    Misses (quoted q) s := by
  cases s with
  | nil => exact ⟨[], rfl⟩
  | cons c s =>
    have notQuote : c ≠ q := by simpa using other
    exact ⟨c :: s, by simp only [quoted, notQuote, if_false]⟩

theorem identifier_name (s : String) (rest : List Token) :
    identifier ((Token.name s).spelling ++ Token.tail rest) = .ok (s, Token.tail rest) :=
  orElse_of_ok (quoted_between (by decide) s rest)

theorem tableName_name (s : String) (rest : List Token) :
    tableName ((Token.name s).spelling ++ Token.tail rest) = .ok (s, Token.tail rest) :=
  orElse_of_ok (quoted_between (by decide) s rest)

theorem textLiteral_text (s : String) (rest : List Token) :
    textLiteral ((Token.text s).spelling ++ Token.tail rest) = .ok (s, Token.tail rest) :=
  quoted_between (by decide) s rest

theorem word_misses_keyword (w : Keyword) (rest : List Token) :
    Misses word (Token.join (.keyword w :: rest)) := by
  obtain ⟨nonempty, upper⟩ := upper_keyword w.val w.property
  obtain ⟨c, letters, spelling⟩ := List.exists_cons_of_ne_nil nonempty
  have first := upper c (by rw [spelling]; exact List.mem_cons_self)
  have alphabetic : (isAlphabetic c || c = '_') = true := by
    have range := (isUpper_iff c).mp first.1
    have latin : c.toNat < 128 := by omega
    have letter : c.isAlpha = true := by
      have parts : c.isAlpha = (c.isUpper || c.isLower) := rfl
      rw [parts, first.1]
      rfl
    simp [isAlphabetic, latin, letter]
  have others : ∀ d ∈ letters, isWordChar d = true := fun d mem =>
    (upper d (by rw [spelling]; exact List.mem_cons_of_mem _ mem)).2.2
  have taken : anyWord (Token.join (.keyword w :: rest)) = .ok (w.val.toList, Token.tail rest) := by
    rw [Token.join_cons, Token.spelling, spelling, List.cons_append, anyWord,
      bind_of_ok (satisfy_of_pos alphabetic),
      bind_of_ok (takeWhile_append others (Token.stops_tail (by decide) rest))]
    rfl
  refine filterMap_of_none taken ?_
  have known : isKeyword w.val.toList = true :=
    List.any_eq_true.mpr ⟨w.val, w.property, by simp [sameLatin]⟩
  rw [known]
  rfl

theorem word_misses_of_stops {s : List Char}
    (stops : Stops (fun c => isAlphabetic c || c = '_') s) : Misses word s :=
  Misses.filterMap (Misses.bind (satisfy_misses stops))

theorem identifier_misses (other : tokens = [] ∨ tokens.head? = some .comma ∨
    ∃ w, tokens.head? = some (.keyword w)) : Misses identifier (Token.join tokens) := by
  rcases other with rfl | comma | ⟨w, keyword⟩
  · exact Misses.orElse ⟨[], rfl⟩ (Misses.bind ⟨[], rfl⟩)
  · obtain ⟨rest, rfl⟩ := List.head?_eq_some_iff.mp comma
    rw [Token.join_cons]
    refine Misses.orElse (quoted_misses (by simp [Token.spelling])) (Misses.bind ?_)
    refine word_misses_of_stops fun c first => ?_
    obtain rfl : ',' = c := Option.some.inj first
    decide
  · obtain ⟨rest, rfl⟩ := List.head?_eq_some_iff.mp keyword
    have notQuote : (Token.join (.keyword w :: rest)).head? ≠ some '"' := by
      have first : ∀ w ∈ keywords, w.toList ≠ [] ∧ w.toList.head? ≠ some '"' := by decide
      obtain ⟨nonempty, notQuote⟩ := first w.val w.property
      obtain ⟨c, letters, spelling⟩ := List.exists_cons_of_ne_nil nonempty
      rw [spelling] at notQuote
      rw [Token.join_cons, Token.spelling, spelling]
      exact notQuote
    exact Misses.orElse (quoted_misses notQuote) (Misses.bind (word_misses_keyword w rest))

/-! ## Numbers and other literals -/

theorem numeral_digits {ds : List Char} (nonempty : ds ≠ []) (digits : ∀ c ∈ ds, c.isDigit = true)
    (minus : Option Char) (rest : List Token)
    (sign : optional (satisfy (· = '-')) (minus.toList ++ (ds ++ Token.tail rest)) =
      .ok (minus, ds ++ Token.tail rest)) :
    numeral (minus.toList ++ (ds ++ Token.tail rest)) =
      .ok (minus.toList ++ ds, Token.tail rest) := by
  have whole : Lexis.digits (ds ++ Token.tail rest) = .ok (ds, Token.tail rest) :=
    takeWhile1_append nonempty digits (Token.stops_tail (by decide) rest)
  rw [numeral, bind_of_ok sign, bind_of_ok whole,
    bind_of_ok (optional_of_misses (satisfy_misses (Token.stops_tail (by decide) rest)).bind),
    bind_of_ok (optional_of_misses (satisfy_misses (Token.stops_tail (by decide) rest)).bind)]
  simp [pure_eq]

theorem numeral_integer (i : Int64) (rest : List Token) :
    numeral ((Token.integer i).spelling ++ Token.tail rest) =
      .ok (Numeral.intText i.toInt, Token.tail rest) := by
  have nonempty : Nat.toDigits 10 i.toInt.natAbs ≠ [] := Nat.toDigits_ne_nil
  have digits : ∀ c ∈ Nat.toDigits 10 i.toInt.natAbs, c.isDigit = true := fun c mem =>
    Numeral.isDigit_of_mem mem
  rw [Token.spelling, Numeral.intText_eq]
  split
  · exact numeral_digits nonempty digits (some '-') rest (optional_of_ok (satisfy_of_pos rfl))
  · refine numeral_digits nonempty digits none rest (optional_of_misses (satisfy_misses ?_))
    obtain ⟨c, ds, spelling, digit⟩ := Numeral.toDigits_eq_cons i.toInt.natAbs
    intro d first
    rw [spelling] at first
    obtain rfl : c = d := Option.some.inj first
    exact decide_eq_false (Numeral.ne_of_isDigit digit (by decide))

theorem numberValue?_intText (i : Int64) :
    numberValue? (Numeral.intText i.toInt) = some (.integer i) := by
  have plain : ((Numeral.intText i.toInt).any fun c => c = '.' || c = 'e' || c = 'E') = false := by
    have digits : ((Nat.toDigits 10 i.toInt.natAbs).any fun c => c = '.' || c = 'e' || c = 'E') =
        false := by
      rw [List.any_eq_false]
      intro c mem
      have digit := Numeral.isDigit_of_mem mem
      simp [Numeral.ne_of_isDigit digit (d := '.') (by decide),
        Numeral.ne_of_isDigit digit (d := 'e') (by decide),
        Numeral.ne_of_isDigit digit (d := 'E') (by decide)]
    rw [Numeral.intText_eq]
    split
    · rw [List.any_cons, digits]
      rfl
    · exact digits
  rw [numberValue?, plain, Numeral.readInt64?_intText]
  rfl

theorem numberLiteral_integer (i : Int64) (rest : List Token) :
    numberLiteral ((Token.integer i).spelling ++ Token.tail rest) =
      .ok (.integer i, Token.tail rest) := by
  refine filterMap_of_some ?_ (numberValue?_intText i)
  rw [bind_of_ok (numeral_integer i rest),
    bind_of_ok (notFollowedBy_of_stops (Token.stops_tail (by decide) rest))]
  rfl

theorem numberLiteral_misses {s : List Char} (stops : Stops (fun c => c = '-' || c.isDigit) s) :
    Misses numberLiteral s := by
  have noMinus : Misses (satisfy (· = '-')) s :=
    satisfy_misses fun c first => (Bool.or_eq_false_iff.mp (stops c first)).1
  have noDigit : Misses digits s :=
    takeWhile1_misses fun c first => (Bool.or_eq_false_iff.mp (stops c first)).2
  exact Misses.filterMap (Misses.bind (Misses.bind_of_ok (optional_of_misses noMinus) noDigit.bind))

theorem rowCount_count (n : UInt64) (rest : List Token) :
    rowCount ((Token.count n).spelling ++ Token.tail rest) = .ok (n, Token.tail rest) :=
  filterMap_of_some (takeWhile1_append Nat.toDigits_ne_nil (fun _ mem => Numeral.isDigit_of_mem mem)
    (Token.stops_tail (by decide) rest)) (Numeral.readUInt64?_toDigits n)

theorem comparison_comparison (operator : Comparison) (rest : List Token) :
    comparison ((Token.comparison operator).spelling ++ Token.tail rest) =
      .ok (operator, Token.tail rest) := by
  cases rest with
  | nil => cases operator <;> rfl
  | cons token rest => cases operator <;> rfl

end PlainTables.Lexis
