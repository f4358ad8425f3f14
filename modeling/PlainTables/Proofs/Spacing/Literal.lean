import PlainTables.Proofs.Spacing.Token

/-!
# Values with more blanks around them

Numbers, texts without quotes and comparisons, which go on with the next character or not.
-/

namespace PlainTables.Spacing

open Lexis Reader
open Text (isBlank)

/-! ## Numbers -/

variable {s s' : List Char}

abbrev Number : TextRel := At fun p _ => p = .number

/-- Where a digit starts a number or goes on with one. -/
def DigitStart : TextRel := fun s s' =>
  Start (fun before => ∀ c ∈ s.head?, c.isDigit → (TokenPlace.ofText before).after c = .number) s s'

theorem isWordChar_of_isDigit {c : Char} (digit : c.isDigit) : isWordChar c := by
  have range := Numeral.toNat_of_isDigit digit
  have latin : c.toNat < 128 := by omega
  simp [isWordChar, Text.isAlphanumeric, latin, Char.isAlphanum, digit]

theorem printing_isDigit : Printing Char.isDigit :=
  fun c digit => printing_isWordChar c (isWordChar_of_isDigit digit)

theorem after_digit {p : TokenPlace} (start : p ≠ .word) (isOpen : p.isOpen) {c : Char}
    (digit : c.isDigit) : p.after c = .number := by
  have number : TokenPlace.ofChar c = .number := by
    simp [TokenPlace.ofChar, isWordChar_of_isDigit digit, digit]
  have other {d : Char} (low : d.toNat < 48 ∨ 57 < d.toNat) : c ≠ d :=
    Numeral.ne_of_isDigit digit low
  rw [← number]
  refine TokenPlace.after_eq_ofChar isOpen (fun word => absurd word start)
    (fun _ => ⟨other (by decide), other (by decide)⟩) fun mark => ?_
  have rejected : ['+', '=', '>'].all (!Char.isDigit ·) := by decide
  have noDigit := List.all_eq_true.mp rejected c mark
  rw [digit] at noDigit
  cases noDigit

theorem digits_alike : Alike DigitStart (fun _ => Number) digits digits := by
  refine (takeWhile1_alike (· = .number) printing_isDigit ?_ (fun _ _ => Start.respaced) ?_).imp ?_
  · rintro p c rfl digit
    exact ⟨TokenPlace.admits_eq_false rfl
      (TokenPlace.isSymbol_ofChar_of_isWordChar (isWordChar_of_isDigit digit)),
      after_digit (p := .number) nofun rfl digit⟩
  · intro c t s' digit related
    obtain ⟨before, t', rfl, number, isOpen, behind⟩ := related.follow (printing_isDigit c digit)
      (TokenPlace.isSymbol_ofChar_of_isWordChar (isWordChar_of_isDigit digit))
    refine ⟨before, t', rfl, ?_, behind⟩
    rw [TokenPlace.ofText_concat]
    exact number c rfl digit
  · rintro _ s s' ⟨before, number, -, respaced⟩
    exact ⟨before, decide_eq_true number, respaced⟩

theorem rowCount_alike : Alike AnyStart (fun _ => Cut) rowCount rowCount := by
  have digits : Alike AnyStart (fun _ => Cut) digits digits := by
    refine (takeWhile1_alike (·.isWord) printing_isDigit ?_ (fun _ _ => Start.respaced) ?_).imp ?_
    · intro p c isWord digit
      exact isWord_step p c isWord (isWordChar_of_isDigit digit)
    · intro c t s' digit related
      obtain ⟨before, t', rfl, -, isWord, behind⟩ :=
        related.follow_word (isWordChar_of_isDigit digit)
      exact ⟨before, t', rfl, isWord, behind⟩
    · rintro _ s s' ⟨before, isWord, -, respaced⟩
      exact ⟨before, TokenPlace.isOpen_of_isWord isWord, respaced⟩
  exact digits.filterMap

theorem digitStart_of_ends (related : Trimmed Near s s') : DigitStart s s' := by
  obtain ⟨⟨before, ends, respaced⟩, -, noGap⟩ := related
  refine ⟨before, ?_, TokenPlace.isOpen_of_ends ends, respaced, .inr noGap⟩
  intro c first digit
  refine after_digit ?_ (TokenPlace.isOpen_of_ends ends) digit
  intro word
  rw [word, Option.mem_def.mp first, TokenPlace.ends, Option.all_some,
    isWordChar_of_isDigit digit] at ends
  cases ends

theorem digitStart_of_place {p : TokenPlace} (isPlace : p = .free ∨ p = .exponent)
    (related : At (fun q _ => q = p) s s') : DigitStart s s' := by
  obtain ⟨before, same, respaced⟩ := related
  obtain rfl := of_decide_eq_true same
  refine ⟨before, fun c _ digit => after_digit ?_ ?_ digit, ?_, respaced, .inl ?_⟩
  all_goals rcases isPlace with same | same <;> simp [same]
  all_goals rfl

theorem mark_alike {p q : TokenPlace} {accepts : Char → Bool}
    (marks : ∀ c, accepts c → isBlank c = false ∧ p.admits (some c) = false ∧ p.after c = q) :
    Alike (At fun r _ => r = p) (fun _ => At fun r _ => r = q) (satisfy accepts)
      (satisfy accepts) := by
  refine satisfy_alike (fun c accepted => (marks c accepted).1)
    (fun _ _ ⟨before, _, respaced⟩ => ⟨before, respaced⟩) ?_
  rintro c t s' accepted ⟨before, same, respaced⟩
  obtain ⟨printing, noGap, after⟩ := marks c accepted
  have place : TokenPlace.ofText before = p := of_decide_eq_true same
  obtain ⟨t', rfl, behind⟩ := respaced.follow printing (.inl (by rw [place, noGap]))
  refine ⟨t', rfl, before ++ [c], ?_, behind⟩
  rw [TokenPlace.ofText_concat, place, after]
  exact decide_eq_true rfl

theorem minus_alike : Alike (Trimmed Near) (fun _ => DigitStart) (optional (satisfy (· = '-')))
    (optional (satisfy (· = '-'))) := by
  refine .optional (satisfy_alike ?_ ?_ ?_) fun s s' => digitStart_of_ends
  · intro c same
    rw [of_decide_eq_true same]
    decide
  · intro s s' related
    exact (start_of_near related).respaced
  · intro c t s' same related
    obtain rfl : c = '-' := of_decide_eq_true same
    obtain ⟨before, t', rfl, -, isOpen, behind⟩ :=
      (start_of_near related).follow (by decide) (by decide)
    refine ⟨t', rfl, digitStart_of_place (.inl rfl) ⟨before ++ ['-'], ?_, behind⟩⟩
    have free : ∀ p ∈ TokenPlace.openPlaces, p.after '-' = .free := by decide
    rw [TokenPlace.ofText_concat, free _ (TokenPlace.mem_openPlaces isOpen)]
    rfl

theorem numeral_alike : Alike (Trimmed Near) (fun _ => Number) numeral numeral := by
  refine minus_alike.bind fun minus => digits_alike.bind fun whole => ?_
  refine (Alike.optional (R := Number) ?_ fun _ _ => id).bind fun fraction =>
    (Alike.optional (R := Number) ?_ fun _ _ => id).map
  · refine (mark_alike (q := .free) ?_).bind fun c =>
      (digits_alike.of_imp fun s s' => digitStart_of_place (.inl rfl)).map
    intro c same
    rw [of_decide_eq_true same]
    decide
  · refine (mark_alike (q := .exponent) ?_).bind fun e => ?_
    · intro c same
      simp only [Bool.or_eq_true, decide_eq_true_eq] at same
      rcases same with rfl | rfl <;> decide
    have sign : Alike (At fun r _ => r = .exponent) (fun _ => DigitStart)
        (optional (satisfy fun c => c = '+' || c = '-'))
        (optional (satisfy fun c => c = '+' || c = '-')) := by
      refine .optional ((mark_alike (q := .free) ?_).imp fun _ s s' =>
        digitStart_of_place (.inl rfl)) fun s s' => digitStart_of_place (.inr rfl)
      intro c same
      simp only [Bool.or_eq_true, decide_eq_true_eq] at same
      rcases same with rfl | rfl <;> decide
    exact sign.bind fun _ => digits_alike.map

theorem literal_alike : Alike (Trimmed Near) (fun _ => Behind) literal literal := by
  have number : Alike (Trimmed Near) (fun _ => Behind) numberLiteral numberLiteral := by
    refine (numeral_alike.bind fun s => ?_).filterMap
    refine (notFollowedBy_alike.of_imp ?_).bind fun _ => .pure s
    intro s s' related
    apply related.mono
    intro p _ number
    rw [of_decide_eq_true number]
    rfl
  have null : Alike AnyStart (fun _ => Behind) (keyword "NULL") (keyword "NULL") :=
    keyword_alike (by decide)
  exact (textLiteral_alike.map.of_imp fun _ _ => start_of_near).orElse (number.orElse
    ((null.bind fun _ => .pure _).of_imp fun _ _ => start_of_near))

/-! ## Comparisons -/

/-- Behind a comparison and spaces. An equals sign is known to stand in front of them. -/
def Compared (op : Comparison) : TextRel := fun s s' =>
  ∃ front gap, (∀ c ∈ gap, isSpace c) ∧ (TokenPlace.ofText (front ++ gap)).ends s.head? ∧
    (op = .eq → TokenPlace.ofText front = .equals) ∧ Respaced IsGap (front ++ gap) s s'

theorem near_of_compared {op : Comparison} (related : Compared op s s') : Near s s' := by
  obtain ⟨front, gap, -, ends, -, respaced⟩ := related
  exact ⟨front ++ gap, ends, respaced⟩

theorem spaces_compared (op : Comparison) :
    Alike (Compared op) (fun _ => Trimmed (Compared op)) spaces spaces := by
  rintro s s' ⟨front, gap, blank, ends, equals, respaced⟩
  refine .ok ⟨⟨front, gap ++ s.takeWhile isSpace, ?_, ?_, equals, ?_⟩, stops_dropWhile _ s,
    stops_dropWhile _ s'⟩
  · intro c mem
    rcases List.mem_append.mp mem with inGap | space
    · exact blank c inGap
    · exact List.mem_takeWhile_imp space
  · rw [← List.append_assoc]
    exact holds_dropSpaces (fun _ _ => TokenPlace.isOpen_of_ends) (fun _ => rfl) ends
  · rw [← List.append_assoc]
    exact respaced.dropSpaces

theorem exactly_misses {symbol : String} (other : ¬ symbol.toList <+: s) :
    Misses (exactly symbol) s := by
  have differs : s.take symbol.length ≠ symbol.toList := by
    intro same
    apply other
    rw [← same]
    exact List.take_prefix _ _
  exact ⟨s, by rw [exactly, if_neg differs]⟩

theorem symbol_misses {symbol : String} (op : Comparison) (other : ¬ symbol.toList <+: s) :
    Misses (do exactly symbol; return op) s :=
  Misses.bind (exactly_misses other)

theorem comparison_misses (stops : Stops (fun c => c = '<' || c = '>' || c = '=') s) :
    Misses comparison s := by
  have other {symbol : String} (op : Comparison)
      (isMark : symbol.toList.head?.any (fun c => c = '<' || c = '>' || c = '=') = true) :
      Misses (do exactly symbol; return op) s := by
    apply symbol_misses op
    intro front
    obtain ⟨r, rfl⟩ := front
    cases spelling : symbol.toList with
    | nil =>
      rw [spelling] at isMark
      cases isMark
    | cons c cs =>
      rw [spelling] at isMark stops
      have rejected : (c = '<' || c = '>' || c = '=') = false := stops c rfl
      rw [List.head?_cons, Option.any_some, rejected] at isMark
      cases isMark
  exact Misses.orElse (other _ (by decide)) <| Misses.orElse (other _ (by decide)) <|
    Misses.orElse (other _ (by decide)) <| Misses.orElse (other _ (by decide)) <|
    Misses.orElse (other _ (by decide)) (other _ (by decide))

theorem comparison_lt {t : List Char} (stops : Stops (fun c => c = '=' || c = '>') t) :
    comparison ('<' :: t) = .ok (.lt, t) := by
  cases t with
  | nil => rfl
  | cons d t =>
    have rejected : d ≠ '=' ∧ d ≠ '>' := by simpa using stops d rfl
    have other := And.intro rejected.1.symm rejected.2.symm
    rw [comparison, orElse_of_misses (symbol_misses _ (by simp [other])),
      orElse_of_misses (symbol_misses _ (by simp)),
      orElse_of_misses (symbol_misses _ (by simp [other])),
      orElse_of_misses (symbol_misses _ (by simp))]
    rfl

theorem comparison_gt {t : List Char} (stops : Stops (· = '=') t) :
    comparison ('>' :: t) = .ok (.gt, t) := by
  cases t with
  | nil => rfl
  | cons d t =>
    have rejected : d ≠ '=' := by simpa using stops d rfl
    have other := rejected.symm
    rw [comparison, orElse_of_misses (symbol_misses _ (by simp)),
      orElse_of_misses (symbol_misses _ (by simp [other])),
      orElse_of_misses (symbol_misses _ (by simp)), orElse_of_misses (symbol_misses _ (by simp)),
      orElse_of_misses (symbol_misses _ (by simp))]
    rfl

theorem printing_mark : Printing fun c => c = '=' || c = '>' := by
  intro c mark
  simp only [Bool.or_eq_true, decide_eq_true_eq] at mark
  rcases mark with rfl | rfl <;> decide

theorem printing_equals : Printing (· = '=') := by
  intro c same
  rw [of_decide_eq_true same]
  decide

theorem ends_less (stops : Stops (fun c => c = '=' || c = '>') s) :
    TokenPlace.less.ends s.head? := by
  cases s with
  | nil => rfl
  | cons c s =>
    have other : c ≠ '=' ∧ c ≠ '>' := by simpa using stops c rfl
    simp [TokenPlace.ends, other]

theorem ends_greater (stops : Stops (· = '=') s) : TokenPlace.greater.ends s.head? := by
  cases s with
  | nil => rfl
  | cons c s =>
    have other : c ≠ '=' := by simpa using stops c rfl
    simp [TokenPlace.ends, other]

theorem compared_of_place {op : Comparison} {before : List Char} {p : TokenPlace}
    (place : TokenPlace.ofText before = p) (ends : p.ends s.head?) (equals : op = .eq → p = .equals)
    (respaced : Respaced IsGap before s s') : Compared op s s' := by
  subst place
  refine ⟨before, [], nofun, ?_, equals, ?_⟩
  · rw [List.append_nil]
    exact ends
  · rw [List.append_nil]
    exact respaced

/-- Behind a less-than sign the comparison goes on with the same character in both texts. -/
theorem less_alike {before : List Char} (place : TokenPlace.ofText before = .less)
    (respaced : Respaced IsGap before s s') :
    SameResult Compared (comparison ('<' :: s)) (comparison ('<' :: s')) := by
  by_cases ended : Stops (fun c => c = '=' || c = '>') s
  · rw [comparison_lt ended, comparison_lt (respaced.stops printing_mark ended)]
    exact .ok (compared_of_place place (ends_less ended) nofun respaced)
  · obtain ⟨d, t, rfl, grows⟩ := exists_cons_of_not_stops ended
    have printing := printing_mark d grows
    simp only [Bool.or_eq_true, decide_eq_true_eq] at grows
    have noGap : TokenPlace.less.admits (some d) = false := by
      rcases grows with rfl | rfl <;> decide
    have symbol : TokenPlace.less.after d = .symbol := by
      rcases grows with rfl | rfl <;> rfl
    rw [← place] at noGap symbol
    rw [← TokenPlace.ofText_concat] at symbol
    obtain ⟨t', rfl, behind⟩ := respaced.follow printing (.inl noGap)
    rcases grows with rfl | rfl
    · exact .ok (compared_of_place symbol rfl nofun behind)
    · exact .ok (compared_of_place symbol rfl nofun behind)

theorem greater_alike {before : List Char} (place : TokenPlace.ofText before = .greater)
    (respaced : Respaced IsGap before s s') :
    SameResult Compared (comparison ('>' :: s)) (comparison ('>' :: s')) := by
  by_cases ended : Stops (· = '=') s
  · rw [comparison_gt ended, comparison_gt (respaced.stops printing_equals ended)]
    exact .ok (compared_of_place place (ends_greater ended) nofun respaced)
  · obtain ⟨d, t, rfl, same⟩ := exists_cons_of_not_stops ended
    obtain rfl : d = '=' := of_decide_eq_true same
    have noGap : TokenPlace.greater.admits (some '=') = false := by decide
    have symbol : TokenPlace.greater.after '=' = .symbol := rfl
    rw [← place] at noGap symbol
    rw [← TokenPlace.ofText_concat] at symbol
    obtain ⟨t', rfl, behind⟩ := respaced.follow (by decide) (.inl noGap)
    exact .ok (compared_of_place symbol rfl nofun behind)

theorem comparison_alike : Alike (Trimmed Near) Compared comparison comparison := by
  rintro s s' ⟨⟨before, ends, respaced⟩, -, noGap⟩
  have mem := TokenPlace.mem_openPlaces (TokenPlace.isOpen_of_ends ends)
  by_cases stops : Stops (fun c => c = '<' || c = '>' || c = '=') s
  · refine .of_misses (comparison_misses stops) (comparison_misses (respaced.stops ?_ stops))
    intro c mark
    simp only [Bool.or_eq_true, decide_eq_true_eq] at mark
    rcases mark with (rfl | rfl) | rfl <;> decide
  · obtain ⟨c, t, rfl, mark⟩ := exists_cons_of_not_stops stops
    simp only [Bool.or_eq_true, decide_eq_true_eq] at mark
    rcases mark with (rfl | rfl) | rfl
    · obtain ⟨t', rfl, behind⟩ := respaced.follow (by decide) (.inr noGap)
      have each : ∀ p ∈ TokenPlace.openPlaces, p.after '<' = .less := by decide
      exact less_alike (by rw [TokenPlace.ofText_concat, each _ mem]) behind
    · obtain ⟨t', rfl, behind⟩ := respaced.follow (by decide) (.inr noGap)
      have each : ∀ p ∈ TokenPlace.openPlaces, p.ends (some '>') → p.after '>' = .greater := by
        decide
      exact greater_alike (by rw [TokenPlace.ofText_concat, each _ mem ends]) behind
    · obtain ⟨t', rfl, behind⟩ := respaced.follow (by decide) (.inr noGap)
      have each : ∀ p ∈ TokenPlace.openPlaces, p.ends (some '=') → p.after '=' = .equals := by
        decide
      have place : TokenPlace.ofText (before ++ ['=']) = .equals := by
        rw [TokenPlace.ofText_concat, each _ mem ends]
      exact .ok (compared_of_place place rfl (fun _ => rfl) behind)

/-! ## Texts without quotes -/

def BehindEquals (before : List Char) : Prop :=
  ∃ front gap, before = front ++ gap ∧ TokenPlace.ofText front = .equals ∧ ∀ c ∈ gap, isSpace c

def BehindBareWords (before : List Char) : Prop :=
  ∃ words gap, before = words ++ gap ∧ EndsInBareWords words ∧ gap ≠ [] ∧
    ∀ c ∈ gap, c = ' ' ∨ c = '\t'

def BehindWord : TextRel := fun s s' =>
  ∃ before, EndsInBareWords before ∧ (TokenPlace.ofText before).isWord ∧ Stops isWordChar s ∧
    Respaced IsGap before s s'

theorem firstWord_alike : Alike (Start BehindEquals) (fun _ => BehindWord) word word := by
  apply word_alike
  rintro before w ⟨front, gap, rfl, equals, blank⟩ taken
  exact ⟨front, gap, w, rfl, equals, blank, .word taken⟩

theorem nextWord_alike : Alike (Start BehindBareWords) (fun _ => BehindWord) word word := by
  apply word_alike
  rintro before w ⟨_, blanks, rfl, ⟨front, gap, words, rfl, equals, space, bare⟩, nonempty, blank⟩ taken
  refine ⟨front, gap, words ++ blanks ++ w, ?_, equals, space, .more bare nonempty blank taken⟩
  simp only [List.append_assoc]

def isLetter (c : Char) : Bool :=
  Text.isAlphabetic c || c = '_'

theorem printing_isLetter : Printing isLetter :=
  fun c letter => printing_isWordChar c (isWordChar_of_letter letter)

def isGapChar (c : Char) : Bool :=
  c = ' ' || c = '\t'

theorem isBlank_of_isGapChar {c : Char} (blank : isGapChar c) : isBlank c := by
  simp only [isGapChar, Bool.or_eq_true, decide_eq_true_eq] at blank
  rcases blank with rfl | rfl <;> decide

theorem follow_gap {before gap u : List Char} {d : Char} (isOpen : (TokenPlace.ofText before).isOpen)
    (notSymbol : (TokenPlace.ofText before).isSymbol = false) (blank : ∀ c ∈ gap, isGapChar c)
    (letter : isLetter d) (respaced : Respaced IsGap before (gap ++ d :: u) s') :
    ∃ r', s' = gap ++ r' ∧ Respaced IsGap (before ++ gap) (d :: u) r' := by
  induction gap generalizing before s' with
  | nil =>
    rw [List.append_nil]
    exact ⟨s', rfl, respaced⟩
  | cons c gap ih =>
    obtain ⟨first, others⟩ := List.forall_mem_cons.mp blank
    have free : TokenPlace.ofText (before ++ [c]) = .free := by
      rw [TokenPlace.ofText_concat, TokenPlace.after_of_isBlank isOpen (isBlank_of_isGapChar first)]
    have other : (TokenPlace.ofChar c).isSymbol = false := by
      simp only [isGapChar, Bool.or_eq_true, decide_eq_true_eq] at first
      rcases first with rfl | rfl <;> decide
    obtain ⟨t', rfl, behind⟩ := respaced.follow_of_mem
      (List.mem_append_right (c :: gap) List.mem_cons_self) (printing_isLetter d letter)
      (.inl (TokenPlace.admits_eq_false notSymbol other))
    obtain ⟨r', rfl, rest⟩ := ih (by rw [free]; rfl) (by rw [free]; rfl) others behind
    rw [List.append_assoc] at rest
    exact ⟨r', rfl, rest⟩

theorem follow_gap_back {before gap u' : List Char} {d : Char} (blank : ∀ c ∈ gap, isGapChar c)
    (letter : isLetter d) (respaced : Respaced IsGap before s (gap ++ d :: u')) :
    ∃ gap' u, s = gap' ++ d :: u ∧ ∀ c ∈ gap', isGapChar c := by
  induction gap generalizing before s with
  | nil =>
    obtain ⟨u, rfl, -⟩ := respaced.follow_back (printing_isLetter d letter)
    exact ⟨[], u, rfl, nofun⟩
  | cons c gap ih =>
    obtain ⟨first, others⟩ := List.forall_mem_cons.mp blank
    cases respaced with
    | blanks isOpen _ blank' =>
      have isBlank := blank' d (List.mem_append_right (c :: gap) List.mem_cons_self)
      rw [printing_isLetter d letter] at isBlank
      cases isBlank
    | copy _ behind =>
      obtain ⟨gap', u, rfl, blanks⟩ := ih others behind
      exact ⟨c :: gap', u, rfl, List.forall_mem_cons.mpr ⟨first, blanks⟩⟩
    | gap _ _ behind => exact ih others behind

theorem nextBareWord_of_gap {gap r : List Char} (blank : ∀ c ∈ gap, isGapChar c)
    (stops : Stops isGapChar r) (nonempty : gap ≠ []) :
    nextBareWord (gap ++ r) = (do return gap ++ (← word) : Reader (List Char)) r :=
  bind_of_ok (takeWhile1_append nonempty blank stops)

theorem nextBareWord_misses (stops : Stops isLetter (s.dropWhile isGapChar)) :
    Misses nextBareWord s := by
  by_cases none : Stops isGapChar s
  · exact Misses.bind (takeWhile1_misses none)
  · obtain ⟨c, t, rfl, blank⟩ := exists_cons_of_not_stops none
    have taken : takeWhile1 isGapChar (c :: t) =
        .ok (c :: t.takeWhile isGapChar, t.dropWhile isGapChar) := by
      simp only [takeWhile1, filterMap, takeWhile, List.takeWhile_cons_of_pos blank,
        List.dropWhile_cons_of_pos blank]
      rfl
    rw [List.dropWhile_cons_of_pos blank] at stops
    exact Misses.bind_of_ok taken (Misses.bind (word_misses_of_stops stops))

theorem not_isGapChar_of_isLetter {d : Char} (letter : isLetter d) : isGapChar d = false := by
  rw [Bool.eq_false_iff]
  intro blank
  have isBlank := isBlank_of_isGapChar blank
  rw [printing_isLetter d letter] at isBlank
  cases isBlank

theorem exists_word_of_not_stops (begins : ¬ Stops isLetter (s.dropWhile isGapChar)) :
    ∃ gap d u, s = gap ++ d :: u ∧ (∀ c ∈ gap, isGapChar c) ∧ isLetter d := by
  obtain ⟨d, u, behind, letter⟩ := exists_cons_of_not_stops begins
  refine ⟨s.takeWhile isGapChar, d, u, ?_, fun c mem => List.mem_takeWhile_imp mem, letter⟩
  rw [← behind, List.takeWhile_append_dropWhile]

theorem not_stops_of_word {gap u : List Char} {d : Char} (blank : ∀ c ∈ gap, isGapChar c)
    (letter : isLetter d) : ¬ Stops isLetter ((gap ++ d :: u).dropWhile isGapChar) := by
  rw [List.dropWhile_append_of_pos blank,
    List.dropWhile_cons_of_neg (by simp [not_isGapChar_of_isLetter letter])]
  intro stops
  have rejected := stops d rfl
  rw [letter] at rejected
  cases rejected

theorem nextBareWord_alike : Alike BehindWord (fun _ => BehindWord) nextBareWord nextBareWord := by
  rintro s s' ⟨before, bare, isWord, ended, respaced⟩
  by_cases stops : Stops isLetter (s.dropWhile isGapChar)
  · refine .of_misses (nextBareWord_misses stops) (nextBareWord_misses ?_)
    by_contra begins
    obtain ⟨gap, d, u', rfl, blank, letter⟩ := exists_word_of_not_stops begins
    obtain ⟨gap', u, rfl, blank'⟩ := follow_gap_back blank letter respaced
    exact not_stops_of_word blank' letter stops
  · obtain ⟨gap, d, u, rfl, blank, letter⟩ := exists_word_of_not_stops stops
    have isOpen := TokenPlace.isOpen_of_isWord isWord
    obtain ⟨r', rfl, rest⟩ :=
      follow_gap isOpen (TokenPlace.isSymbol_of_isWord isWord) blank letter respaced
    have nonempty : gap ≠ [] := by
      rintro rfl
      have rejected := ended d rfl
      rw [isWordChar_of_letter letter] at rejected
      cases rejected
    have free : TokenPlace.ofText (before ++ gap) = .free :=
      TokenPlace.ofText_append_blanks isOpen (fun c mem => isBlank_of_isGapChar (blank c mem)) nonempty
    obtain ⟨u', rfl, -⟩ := rest.follow (printing_isLetter d letter) (.inl (by
      rw [free]
      exact TokenPlace.admits_eq_false rfl
        (TokenPlace.isSymbol_ofChar_of_isWordChar (isWordChar_of_letter letter))))
    have noGap (t : List Char) : Stops isGapChar (d :: t) := by
      rintro _ ⟨⟩
      exact not_isGapChar_of_isLetter letter
    rw [nextBareWord_of_gap blank (noGap u) nonempty, nextBareWord_of_gap blank (noGap u') nonempty]
    refine nextWord_alike.map _ _ ⟨before ++ gap, ⟨before, gap, rfl, bare, nonempty, ?_⟩, ?_, rest, ?_⟩
    · intro c mem
      simpa [isGapChar] using blank c mem
    · rw [free]
      rfl
    · rw [free]
      exact .inl rfl

theorem near_of_behindWord (related : BehindWord s s') : Near s s' := by
  obtain ⟨before, -, isWord, stops, respaced⟩ := related
  exact ⟨before, TokenPlace.ends_of_isWord isWord stops, respaced⟩

def bareWords : Reader (List Char) := do
  let first ← word
  let more ← many nextBareWord
  return first ++ more.flatten

theorem bareWords_alike : Alike (Start BehindEquals) (fun _ => BehindWord) bareWords bareWords := by
  have shortens : Takes (· ≠ []) nextBareWord :=
    .bind_nonempty (.takeWhile1 fun _ nonempty _ => nonempty) fun _ => Closed.joins.map takes_word
  have ends : Misses nextBareWord [] := nextBareWord_misses nofun
  exact firstWord_alike.bind fun first =>
    (nextBareWord_alike.many shortens shortens ends ends).map

/-- What an unquoted text may not go on with. -/
def goesOn (c : Char) : Bool :=
  c = '.' || c = '(' || c = '+'

def textOf (s : List Char) : Except Stop (List Char × List Char) → Except Stop (Value × List Char)
  | .ok (cs, r) =>
    if r.head?.any goesOn then .error (.miss s) else .ok (.text (String.ofList cs), r)
  | .error stop => .error stop

theorem bareText_eq (s : List Char) : bareText s = textOf s (bareWords s) := by
  unfold bareText
  dsimp only
  split
  · next cs r read =>
    have taken : bareWords s = .ok (cs, r) := read
    rw [taken]
    dsimp only [textOf]
    split
    · rfl
    · rfl
    · rfl
    · next dot call plus =>
      cases r with
      | nil => rfl
      | cons c r =>
        have other : goesOn c = false := by
          simp only [goesOn, Bool.or_eq_false_iff, decide_eq_false_iff_not]
          refine ⟨⟨?_, ?_⟩, ?_⟩
          · rintro rfl
            exact dot r rfl
          · rintro rfl
            exact call r rfl
          · rintro rfl
            exact plus r rfl
        simp [other]
  · next stop ended =>
    have stopped : bareWords s = .error stop := ended
    rw [stopped]
    rfl

theorem printing_goesOn : Printing goesOn := by
  intro c goes
  simp only [goesOn, Bool.or_eq_true, decide_eq_true_eq] at goes
  rcases goes with (rfl | rfl) | rfl <;> decide

/-- No blank has been put in between a word on the right of an equals sign and what makes it a name. -/
theorem not_goesOn_of_isGap {before : List Char} (bare : EndsInBareWords before)
    (isWord : (TokenPlace.ofText before).isWord) (isGap : IsGap before s.head?) : Stops goesOn s := by
  intro c first
  obtain ⟨admits, notBare⟩ := isGap
  rw [Option.mem_def.mp first] at admits notBare
  have noDot : c ≠ '.' := by
    rintro rfl
    rw [TokenPlace.admits_eq_false (TokenPlace.isSymbol_of_isWord isWord) (by decide)] at admits
    cases admits
  have noSymbol : c ≠ '+' ∧ c ≠ '(' := by simpa [bare] using notBare
  simp [goesOn, noDot, noSymbol]

theorem any_eq_false_of_stops {accepts : Char → Bool} (stops : Stops accepts s) :
    s.head?.any accepts = false := by
  cases s with
  | nil => rfl
  | cons c s => exact stops c rfl

theorem any_goesOn (related : BehindWord s s') : s'.head?.any goesOn = s.head?.any goesOn := by
  obtain ⟨before, bare, isWord, -, respaced⟩ := related
  by_cases stops : Stops goesOn s
  · rw [any_eq_false_of_stops stops,
      any_eq_false_of_stops (respaced.stops printing_goesOn stops)]
  · cases respaced with
    | nil => rfl
    | blanks isOpen blank =>
      refine absurd (fun c first => ?_) stops
      cases goes : goesOn c with
      | false => rfl
      | true =>
        have isBlank := blank c (List.mem_of_mem_head? first)
        rw [printing_goesOn c goes] at isBlank
        cases isBlank
    | copy c behind => rfl
    | gap space isGap behind => exact absurd (not_goesOn_of_isGap bare isWord isGap) stops

theorem bareText_alike : Alike (Trimmed (Compared .eq)) (fun _ => Near) bareText bareText := by
  rintro s s' ⟨⟨front, gap, space, ends, equals, respaced⟩, -, noGap⟩
  have same := bareWords_alike s s' ⟨front ++ gap, ⟨front, gap, rfl, equals rfl, space⟩,
    TokenPlace.isOpen_of_ends ends, respaced, .inr noGap⟩
  rw [bareText_eq, bareText_eq]
  generalize bareWords s = x at same
  generalize bareWords s' = x' at same
  cases same with
  | ok left =>
    dsimp only [textOf]
    rw [any_goesOn left]
    split
    · exact .miss
    · exact .ok (near_of_behindWord left)
  | miss => exact .miss
  | fatal => exact .fatal

end PlainTables.Spacing
