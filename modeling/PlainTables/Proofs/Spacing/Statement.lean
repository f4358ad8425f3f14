import Mathlib.Data.List.DropRight
import PlainTables.Proofs.Spacing.Clause
import PlainTables.Proofs.Text.Ends
import PlainTables.Statement.Parse

/-!
# Statements with more blanks between tokens

Blanks between tokens are without meaning. The text of a statement is found between the blanks around it and the
semicolons behind it, and is then followed through the grammar.
-/

namespace PlainTables

open Lexis Reader
open Text (isBlank)

/-! ## Closed texts -/

namespace TokenPlace

theorem isOpen_ofChar {c : Char} (noQuote : c ≠ '\'' ∧ c ≠ '"') : (ofChar c).isOpen := by
  unfold ofChar
  split
  · split <;> rfl
  · split
    · exact absurd rfl noQuote.1
    · exact absurd rfl noQuote.2
    all_goals rfl

theorem isOpen_after {p : TokenPlace} (isOpen : p.isOpen) {c : Char} (noQuote : c ≠ '\'' ∧ c ≠ '"') :
    (p.after c).isOpen := by
  have char := isOpen_ofChar noQuote
  cases p with
  | quoted q => cases isOpen
  | free | equals | symbol => exact char
  | _ =>
    simp only [after]
    split
    · rfl
    · exact char

theorem ofText_append_of_not_mem {before t : List Char} {q : Char}
    (inside : ofText before = .quoted q) (other : q ∉ t) : ofText (before ++ t) = .quoted q := by
  induction t generalizing before with
  | nil =>
    rw [List.append_nil]
    exact inside
  | cons c t ih =>
    rw [List.mem_cons, not_or] at other
    rw [List.append_cons]
    exact ih (ofText_staying inside (Ne.symm other.1)) other.2

theorem isOpen_append_closed {before t : List Char} (isOpen : (ofText before).isOpen)
    (closed : Closed t) : (ofText (before ++ t)).isOpen := by
  induction closed generalizing before with
  | nil =>
    rw [List.append_nil]
    exact isOpen
  | @plain c t plain _ ih =>
    have noQuote : c ≠ '\'' ∧ c ≠ '"' := by
      simp only [isPlain, Bool.and_eq_true, decide_eq_true_eq] at plain
      exact plain.1
    rw [List.append_cons]
    apply ih
    rw [ofText_concat]
    exact isOpen_after isOpen noQuote
  | @quoted q inner t isQuote closes _ ih =>
    have inside := ofText_append_of_not_mem (Spacing.IsQuote.opens isQuote isOpen) closes
    rw [List.append_cons, ← List.append_assoc, List.append_cons]
    apply ih
    rw [ofText_closing inside]
    rfl

end TokenPlace

theorem Lexis.Closed.getLast?_ne {t : List Char} (closed : Closed t) : t.getLast? ≠ some ';' := by
  induction closed with
  | nil => simp
  | @plain c t plain _ ih =>
    cases t with
    | nil =>
      rw [List.getLast?_singleton]
      rintro ⟨⟩
      cases plain
    | cons d t =>
      rw [List.getLast?_cons_cons]
      exact ih
  | @quoted q inner t isQuote _ _ ih =>
    cases t with
    | nil =>
      rw [← List.cons_append, List.getLast?_concat]
      rintro ⟨⟩
      rcases isQuote with same | same <;> cases same
    | cons d t =>
      rw [← List.cons_append, List.getLast?_append_cons, List.getLast?_cons_cons]
      exact ih

/-! ## The text of a statement -/

namespace Statement

/-- The text starts and ends with a character that is no blank. -/
structure Tight (core : List Char) : Prop where
  first : ∃ c ∈ core.head?, isBlank c = false
  last : ∃ c ∈ core.getLast?, isBlank c = false

/-- Blanks, and semicolons with blanks around all of them. -/
def Ending (s : List Char) : Prop :=
  ∃ gap semicolons gap', s = gap ++ semicolons ++ gap' ∧ (∀ c ∈ gap, isBlank c) ∧
    (∀ c ∈ semicolons, c = ';') ∧ ∀ c ∈ gap', isBlank c

theorem rdropWhile_append {p : Char → Bool} {s t : List Char} (all : ∀ c ∈ t, p c) :
    (s ++ t).rdropWhile p = s.rdropWhile p := by
  rw [List.rdropWhile, List.reverse_append, List.dropWhile_append_of_pos (by simpa using all),
    List.rdropWhile]

theorem rdropWhile_of_last {p : Char → Bool} {s : List Char} (last : ∀ c ∈ s.getLast?, p c = false) :
    s.rdropWhile p = s := by
  rw [List.rdropWhile_eq_self_iff]
  intro nonempty
  rw [Bool.not_eq_true]
  exact last _ (List.getLast?_eq_some_getLast nonempty)

theorem getLast?_append_blanks {core gap : List Char} (last : core.getLast? ≠ some ';')
    (blank : ∀ c ∈ gap, isBlank c) : (core ++ gap).getLast? ≠ some ';' := by
  rw [List.getLast?_append]
  cases behind : gap.getLast? with
  | none => exact last
  | some c =>
    rintro ⟨⟩
    have isBlank := blank ';' (List.mem_of_getLast? behind)
    cases isBlank

theorem Tight.trimLeft {core lead : List Char} (tight : Tight core) (blank : ∀ c ∈ lead, isBlank c)
    (t : List Char) : Text.trimLeft (lead ++ core ++ t) = core ++ t := by
  obtain ⟨c, first, printing⟩ := tight.first
  obtain ⟨rest, rfl⟩ := List.head?_eq_some_iff.mp first
  rw [Text.trimLeft, List.append_assoc, List.dropWhile_append_of_pos blank, List.cons_append,
    List.dropWhile_cons_of_neg (by simp [printing])]

theorem Tight.rdropWhile {core : List Char} (tight : Tight core) :
    core.rdropWhile isBlank = core := by
  obtain ⟨d, last, printing⟩ := tight.last
  apply rdropWhile_of_last
  intro e mem
  rw [Option.mem_def.mp last] at mem
  cases mem
  exact printing

theorem Tight.trim {core lead gap : List Char} (tight : Tight core) (blank : ∀ c ∈ lead, isBlank c)
    (blankGap : ∀ c ∈ gap, isBlank c) : Text.trim (lead ++ core ++ gap) = core := by
  rw [Text.trim, tight.trimLeft blank]
  exact (rdropWhile_append blankGap).trans tight.rdropWhile

theorem body_of_parts {lead core ending : List Char} (tight : Tight core)
    (noSemicolon : core.getLast? ≠ some ';') (blank : ∀ c ∈ lead, isBlank c)
    (ends : Ending ending) :
    ∃ gap, (∀ c ∈ gap, isBlank c) ∧ body (lead ++ core ++ ending) = core ++ gap := by
  obtain ⟨gap, semicolons, gap', rfl, blankGap, isSemicolon, blankGap'⟩ := ends
  have drop : body (lead ++ core ++ (gap ++ semicolons ++ gap')) =
      ((core ++ gap ++ semicolons ++ gap').rdropWhile isBlank).rdropWhile (· = ';') := by
    rw [body, Text.trim, tight.trimLeft blank, ← List.append_assoc, ← List.append_assoc]
    rfl
  have keeps {t : List Char} (last : t.getLast? ≠ some ';') : t.rdropWhile (· = ';') = t := by
    refine rdropWhile_of_last fun e mem => decide_eq_false ?_
    rintro rfl
    exact last mem
  rw [drop, rdropWhile_append blankGap']
  rcases List.eq_nil_or_concat semicolons with rfl | ⟨others, e, rfl⟩
  · refine ⟨[], List.forall_mem_nil _, ?_⟩
    rw [List.append_nil, rdropWhile_append blankGap, tight.rdropWhile, keeps noSemicolon,
      List.append_nil]
  · rw [List.concat_eq_append] at isSemicolon ⊢
    refine ⟨gap, blankGap, ?_⟩
    obtain rfl : e = ';' := isSemicolon e (by simp)
    have last : ∀ c ∈ (core ++ gap ++ (others ++ [';'])).getLast?, isBlank c = false := by
      rw [← List.append_assoc, List.getLast?_concat]
      rintro _ ⟨⟩
      rfl
    rw [rdropWhile_of_last last, rdropWhile_append (by simpa using isSemicolon),
      keeps (getLast?_append_blanks noSemicolon blankGap)]

/-- A reading of the core of a statement takes all of it. -/
structure IsCore (core : List Char) (written : Statement) : Prop where
  read : Grammar.statement core = .ok (written, [])
  closed : Closed core
  tight : Tight core

/-- Blanks around the core and semicolons behind it. -/
def Encloses (s core : List Char) : Prop :=
  ∃ lead ending, s = lead ++ core ++ ending ∧ (∀ c ∈ lead, isBlank c) ∧ Ending ending

theorem all_blank {before s s' : List Char} (respaced : Respaced IsGap before s s')
    (blank : ∀ c ∈ s, isBlank c) : ∀ c ∈ s', isBlank c := by
  induction respaced with
  | nil => exact nofun
  | blanks _ _ blank' => exact blank'
  | copy c _ ih =>
    obtain ⟨first, others⟩ := List.forall_mem_cons.mp blank
    exact List.forall_mem_cons.mpr ⟨first, ih others⟩
  | gap space _ _ ih => exact List.forall_mem_cons.mpr ⟨isBlank_of_isSpace space, ih blank⟩

/-- What is read of a text is read of the text with more blanks. -/
theorem read_of_respaced {before b b' r : List Char} {written : Statement}
    (free : TokenPlace.ofText before = .free) (respaced : Respaced IsGap before b b')
    (read : Grammar.statement b = .ok (written, r)) (blank : ∀ c ∈ r, isBlank c) :
    ∃ r', Grammar.statement b' = .ok (written, r') ∧ ∀ c ∈ r', isBlank c := by
  have same := Spacing.statement_alike b b' ⟨before, by rw [free]; rfl, respaced⟩
  rw [read] at same
  generalize outcome : Grammar.statement b' = x at same
  cases same with
  | @ok _ _ r' left =>
    obtain ⟨⟨front, -, behind⟩, -⟩ := left
    exact ⟨r', rfl, all_blank behind blank⟩

theorem Tight.eq_nil_of_suffix {u r : List Char} (tight : Tight (u ++ r))
    (blank : ∀ c ∈ r, isBlank c) : r = [] := by
  obtain ⟨c, last, printing⟩ := tight.last
  rcases List.eq_nil_or_concat r with rfl | ⟨front, d, rfl⟩
  · rfl
  · rw [List.concat_eq_append, ← List.append_assoc, List.getLast?_concat] at last
    cases last
    have isBlank := blank c (by simp)
    rw [printing] at isBlank
    cases isBlank

theorem isCore_of_read {core r : List Char} {written : Statement} (tight : Tight core)
    (read : Grammar.statement core = .ok (written, r)) (blank : ∀ c ∈ r, isBlank c) :
    IsCore core written := by
  obtain ⟨u, closed, rfl⟩ := Grammar.takes_statement _ _ _ read
  obtain rfl := tight.eq_nil_of_suffix blank
  rw [List.append_nil] at read tight ⊢
  exact ⟨read, closed, tight⟩

theorem isOpen_of_read {b r : List Char} {written : Statement}
    (read : Grammar.statement b = .ok (written, r)) (blank : ∀ c ∈ r, isBlank c) :
    (TokenPlace.ofText b).isOpen := by
  obtain ⟨u, closed, rfl⟩ := Grammar.takes_statement _ _ _ read
  rw [TokenPlace.isOpen_append_blanks u blank]
  have start : (TokenPlace.ofText []).isOpen := rfl
  exact TokenPlace.isOpen_append_closed start closed

theorem trimLeft_eq_body_append (s : List Char) :
    ∃ semicolons gap, Text.trimLeft s = body s ++ semicolons ++ gap ∧
      (∀ c ∈ semicolons, c = ';') ∧ ∀ c ∈ gap, isBlank c := by
  have parts : body s = ((Text.trimLeft s).rdropWhile isBlank).rdropWhile (· = ';') := rfl
  refine ⟨((Text.trimLeft s).rdropWhile isBlank).rtakeWhile (· = ';'),
    (Text.trimLeft s).rtakeWhile isBlank, ?_, fun c mem => ?_, fun c mem =>
      List.mem_rtakeWhile_imp mem⟩
  · rw [parts, List.rdropWhile_append_rtakeWhile, List.rdropWhile_append_rtakeWhile]
  · have same := List.mem_rtakeWhile_imp (p := (· = ';')) mem
    exact of_decide_eq_true same

/-- The text of a statement has a core, which is all that is read of it. -/
theorem exists_core {sql : String} {s : Statement} (parsed : parse sql = .ok s) :
    ∃ core written, Encloses sql.toList core ∧ IsCore core written ∧ s = written.resolve := by
  obtain ⟨written, r, read, blank, rfl⟩ := parse_eq_ok_iff.mp parsed
  have isOpen := isOpen_of_read read (List.dropWhile_eq_nil_iff.mp blank)
  obtain ⟨semicolons, gap', behind, isSemicolon, blankGap'⟩ := trimLeft_eq_body_append sql.toList
  -- The core is what is read without the blanks at its end.
  obtain ⟨core, gap, parts, blankGap, last⟩ : ∃ core gap, body sql.toList = core ++ gap ∧
      (∀ c ∈ gap, isBlank c) ∧ ∀ c ∈ core.getLast?, isBlank c = false := by
    refine ⟨(body sql.toList).rdropWhile isBlank, (body sql.toList).rtakeWhile isBlank,
      (List.rdropWhile_append_rtakeWhile ..).symm, fun c mem => List.mem_rtakeWhile_imp mem, ?_⟩
    intro c mem
    have nonempty := List.ne_nil_of_mem (List.mem_of_getLast? mem)
    have printing := List.rdropWhile_last_not isBlank _ nonempty
    rw [List.getLast?_eq_some_getLast nonempty] at mem
    cases mem
    rwa [Bool.not_eq_true] at printing
  rw [parts] at read behind isOpen
  rw [TokenPlace.isOpen_append_blanks core blankGap] at isOpen
  have shorter : Respaced IsGap [] (core ++ gap) (core ++ []) :=
    .copies [] core (.blanks isOpen blankGap nofun)
  rw [List.append_nil] at shorter
  obtain ⟨r', readCore, blankRest⟩ :=
    read_of_respaced rfl shorter read (List.dropWhile_eq_nil_iff.mp blank)
  have tight : Tight core := by
    cases core with
    | nil => cases readCore
    | cons c t =>
      refine ⟨⟨c, rfl, ?_⟩, ⟨_, List.getLast?_cons, last _ List.getLast?_cons⟩⟩
      have stops := Spacing.stops_dropWhile isBlank sql.toList
      exact stops c (by
        rw [← Text.trimLeft, behind]
        rfl)
  refine ⟨core, written, ⟨sql.toList.takeWhile isBlank, gap ++ semicolons ++ gap', ?_, ?_, ?_⟩,
    isCore_of_read tight readCore blankRest, rfl⟩
  · have whole := List.takeWhile_append_dropWhile (p := isBlank) (l := sql.toList)
    rw [← Text.trimLeft, behind] at whole
    apply whole.symm.trans
    simp only [List.append_assoc]
  · exact fun c mem => List.mem_takeWhile_imp mem
  · exact ⟨gap, semicolons, gap', rfl, blankGap, isSemicolon, blankGap'⟩

/-! ## More blanks -/

theorem respaced_append_blanks {before s s' gap : List Char} (respaced : Respaced IsGap before s s')
    (isOpen : (TokenPlace.ofText (before ++ s)).isOpen) (blank : ∀ c ∈ gap, isBlank c) :
    Respaced IsGap before s (s' ++ gap) := by
  induction respaced with
  | @nil before =>
    rw [List.append_nil] at isOpen
    exact .blanks isOpen nofun blank
  | blanks isOpen' blanks blanks' =>
    refine .blanks isOpen' blanks fun c mem => ?_
    exact (List.mem_append.mp mem).elim (blanks' c) (blank c)
  | @copy before s s' c _ ih =>
    rw [List.append_cons] at isOpen
    exact .copy c (ih isOpen)
  | gap space isGap _ ih => exact .gap space isGap (ih isOpen)

theorem parse_core {core : List Char} {written : Statement} (isCore : IsCore core written) :
    parse (String.ofList core) = .ok written.resolve := by
  obtain ⟨read, closed, tight⟩ := isCore
  have noLead : ∀ c ∈ ([] : List Char), isBlank c := nofun
  have noEnding : Ending [] := ⟨[], [], [], rfl, nofun, nofun, nofun⟩
  obtain ⟨gap, blank, same⟩ := body_of_parts tight closed.getLast?_ne noLead noEnding
  have longer : Respaced IsGap [] core (core ++ gap) := by
    have kept : Respaced IsGap [] (core ++ []) (core ++ []) := .copies [] core .nil
    rw [List.append_nil] at kept
    exact respaced_append_blanks kept (isOpen_of_read read nofun) blank
  obtain ⟨r', read', blankRest⟩ := read_of_respaced rfl longer read nofun
  refine parse_eq_ok_iff.mpr ⟨written, r', ?_, List.dropWhile_eq_nil_iff.mpr blankRest, rfl⟩
  rw [String.toList_ofList, ← read', ← same, List.nil_append, List.append_nil]

theorem split_lead {before lead core s' : List Char} {c : Char} (blank : ∀ c ∈ lead, isBlank c)
    (printing : isBlank c = false) (respaced : Respaced IsGap before (lead ++ c :: core) s') :
    ∃ lead' t', s' = lead' ++ c :: t' ∧ (∀ c ∈ lead', isBlank c) ∧
      Respaced IsGap (before ++ lead) (c :: core) (c :: t') := by
  generalize whole : lead ++ c :: core = s at respaced
  induction respaced generalizing lead with
  | nil => simp at whole
  | blanks _ blanks _ =>
    subst whole
    have isBlank := blanks c (by simp)
    rw [printing] at isBlank
    cases isBlank
  | @copy before s s' d respaced ih =>
    cases lead with
    | nil =>
      cases whole
      rw [List.append_nil]
      exact ⟨[], s', rfl, nofun, .copy c respaced⟩
    | cons e lead =>
      cases whole
      obtain ⟨first, others⟩ := List.forall_mem_cons.mp blank
      obtain ⟨lead', t', rfl, blank', behind⟩ := ih others rfl
      rw [List.append_assoc] at behind
      exact ⟨d :: lead', t', rfl, List.forall_mem_cons.mpr ⟨first, blank'⟩, behind⟩
  | @gap before s s' b space _ _ ih =>
    obtain ⟨lead', t', rfl, blank', behind⟩ := ih blank whole
    exact ⟨b :: lead', t', rfl, List.forall_mem_cons.mpr ⟨isBlank_of_isSpace space, blank'⟩, behind⟩

theorem split_core {before core ending s' : List Char} {d : Char} (last : core.getLast? = some d)
    (printing : isBlank d = false) (respaced : Respaced IsGap before (core ++ ending) s') :
    ∃ core' ending', s' = core' ++ ending' ∧ core'.getLast? = some d ∧
      Respaced IsGap before core core' ∧ Respaced IsGap (before ++ core) ending ending' := by
  have extend {core : List Char} (e : Char) (last : core.getLast? = some d) :
      (e :: core).getLast? = some d := by
    cases core with
    | nil => cases last
    | cons f core => rw [List.getLast?_cons_cons, last]
  generalize whole : core ++ ending = s at respaced
  induction respaced generalizing core with
  | nil =>
    rw [(List.append_eq_nil_iff.mp whole).1] at last
    cases last
  | blanks _ blanks _ =>
    subst whole
    have isBlank := blanks d (List.mem_append_left _ (List.mem_of_getLast? last))
    rw [printing] at isBlank
    cases isBlank
  | @copy before s s' e respaced ih =>
    cases core with
    | nil => cases last
    | cons f core =>
      cases whole
      cases core with
      | nil =>
        obtain rfl : e = d := Option.some.inj last
        exact ⟨[e], s', rfl, rfl, .copy e .nil, respaced⟩
      | cons g core =>
        rw [List.getLast?_cons_cons] at last
        obtain ⟨core', ending', rfl, last', front, behind⟩ := ih last rfl
        rw [List.append_assoc] at behind
        exact ⟨e :: core', ending', rfl, extend e last', .copy e front, behind⟩
  | @gap before s s' b space isGap _ ih =>
    obtain ⟨core', ending', rfl, last', front, behind⟩ := ih last whole
    refine ⟨b :: core', ending', rfl, extend b last', .gap space ?_ front, behind⟩
    cases core with
    | nil => cases last
    | cons f core =>
      cases whole
      exact isGap

theorem isSymbol_after_semicolon (p : TokenPlace) : (p.after ';').isSymbol = false := by
  cases p with
  | quoted q =>
    simp only [TokenPlace.after]
    split <;> rfl
  | _ => decide

theorem respaced_semicolons {before semicolons gap s' : List Char}
    (notSymbol : (TokenPlace.ofText before).isSymbol = false) (isSemicolon : ∀ c ∈ semicolons, c = ';')
    (blank : ∀ c ∈ gap, isBlank c) (respaced : Respaced IsGap before (semicolons ++ gap) s') :
    ∃ gap', s' = semicolons ++ gap' ∧ ∀ c ∈ gap', isBlank c := by
  induction semicolons generalizing before s' with
  | nil => exact ⟨s', rfl, all_blank respaced blank⟩
  | cons c semicolons ih =>
    obtain ⟨rfl, others⟩ := List.forall_mem_cons.mp isSemicolon
    obtain ⟨t', rfl, behind⟩ := respaced.follow (by decide)
      (.inl (TokenPlace.admits_eq_false notSymbol (by decide)))
    have next : (TokenPlace.ofText (before ++ [';'])).isSymbol = false := by
      rw [TokenPlace.ofText_concat]
      exact isSymbol_after_semicolon _
    obtain ⟨gap', rfl, blank'⟩ := ih next others behind
    exact ⟨gap', rfl, blank'⟩

theorem ending_of_respaced {before ending s' : List Char} (ends : Ending ending)
    (respaced : Respaced IsGap before ending s') : Ending s' := by
  obtain ⟨gap, semicolons, gap', rfl, blankGap, isSemicolon, blankGap'⟩ := ends
  have ofBlanks {t : List Char} (blank : ∀ c ∈ t, isBlank c) : Ending t :=
    ⟨t, [], [], by simp, blank, nofun, nofun⟩
  generalize whole : gap ++ semicolons ++ gap' = s at respaced
  induction respaced generalizing gap with
  | nil => exact ofBlanks nofun
  | blanks _ _ blank' => exact ofBlanks blank'
  | @copy before s s' c respaced ih =>
    cases gap with
    | cons d gap =>
      cases whole
      obtain ⟨first, others⟩ := List.forall_mem_cons.mp blankGap
      obtain ⟨front, middle, behind, rfl, blank, isSemicolon', blank'⟩ := ih gap others rfl
      exact ⟨c :: front, middle, behind, rfl, List.forall_mem_cons.mpr ⟨first, blank⟩,
        isSemicolon', blank'⟩
    | nil =>
      cases semicolons with
      | nil =>
        subst whole
        exact ofBlanks (all_blank (.copy c respaced) blankGap')
      | cons d semicolons =>
        cases whole
        obtain ⟨rfl, others⟩ := List.forall_mem_cons.mp isSemicolon
        have notSymbol : (TokenPlace.ofText (before ++ [';'])).isSymbol = false := by
          rw [TokenPlace.ofText_concat]
          exact isSymbol_after_semicolon _
        obtain ⟨behind, rfl, blank'⟩ := respaced_semicolons notSymbol others blankGap' respaced
        exact ⟨[], ';' :: semicolons, behind, rfl, nofun, isSemicolon, blank'⟩
  | @gap before s s' b space _ _ ih =>
    obtain ⟨front, middle, behind, rfl, blank, isSemicolon', blank'⟩ := ih gap blankGap whole
    exact ⟨b :: front, middle, behind, rfl,
      List.forall_mem_cons.mpr ⟨isBlank_of_isSpace space, blank⟩, isSemicolon', blank'⟩

/-- Blanks put in next to the operators, parentheses and commas of a statement do not change what is read. -/
theorem parse_respaced {sql sql' : String} {s : Statement}
    (respaced : Respaced IsGap [] sql.toList sql'.toList) (parsed : parse sql = .ok s) :
    parse sql' = .ok s := by
  obtain ⟨core, written, ⟨lead, ending, parts, blank, ends⟩, ⟨read, closed, tight⟩, rfl⟩ :=
    exists_core parsed
  obtain ⟨⟨c, first, printing⟩, ⟨d, last, printing'⟩⟩ := tight
  obtain ⟨t, rfl⟩ := List.head?_eq_some_iff.mp first
  rw [parts, List.append_assoc, List.cons_append] at respaced
  obtain ⟨lead', t', parts', blank', respaced⟩ := split_lead blank printing respaced
  rw [List.nil_append, ← List.cons_append] at respaced
  obtain ⟨core', ending', tail, last', respacedCore, respacedEnding⟩ :=
    split_core last printing' respaced
  have free : TokenPlace.ofText lead = .free := by
    cases lead with
    | nil => rfl
    | cons e lead =>
      have start : (TokenPlace.ofText []).isOpen := rfl
      exact TokenPlace.ofText_append_blanks start blank (List.cons_ne_nil e lead)
  have tight' : Tight core' := by
    cases core' with
    | nil => cases last'
    | cons e core' =>
      cases tail
      exact ⟨⟨c, rfl, printing⟩, ⟨d, last', printing'⟩⟩
  have noSemicolon : core'.getLast? ≠ some ';' := by
    rw [last', ← last]
    exact closed.getLast?_ne
  obtain ⟨gap, blankGap, bodyParts⟩ :=
    body_of_parts tight' noSemicolon blank' (ending_of_respaced ends respacedEnding)
  have isOpen : (TokenPlace.ofText (lead ++ c :: t)).isOpen :=
    TokenPlace.isOpen_append_closed (by rw [free]; rfl) closed
  obtain ⟨r', read', blankRest⟩ := read_of_respaced free
    (respaced_append_blanks respacedCore isOpen blankGap) read nofun
  refine parse_eq_ok_iff.mpr ⟨written, r', ?_, List.dropWhile_eq_nil_iff.mpr blankRest, rfl⟩
  rw [parts', tail, ← List.append_assoc, bodyParts]
  exact read'

/-- A comma, a comparison and a plus with blanks next to them. -/
theorem parse_respaced_sum :
    parse "SELECT a, b FROM t WHERE a <=b+ 1" = parse "SELECT a,b FROM t WHERE a<=b+1" := by
  have isGap {before : List Char} (next : Char) (admits : (TokenPlace.ofText before).admits (some next))
      (other : next ≠ '+' ∧ next ≠ '(') : IsGap before (some next) := by
    refine ⟨admits, ?_⟩
    rintro ⟨-, plus | opening⟩
    · exact other.1 (Option.some.inj plus)
    · exact other.2 (Option.some.inj opening)
  have respaced : Respaced IsGap []
      ("SELECT a,".toList ++ ("b FROM t WHERE a".toList ++ ("<=b+".toList ++ ("1".toList ++ []))))
      ("SELECT a,".toList ++ ' ' :: ("b FROM t WHERE a".toList ++
        ' ' :: ("<=b+".toList ++ ' ' :: ("1".toList ++ [])))) := by
    refine .copies _ _ (.gap rfl (isGap 'b' (by decide +kernel) (by decide)) ?_)
    refine .copies _ _ (.gap rfl (isGap '<' (by decide +kernel) (by decide)) ?_)
    refine .copies _ _ (.gap rfl (isGap '1' (by decide +kernel) (by decide)) ?_)
    exact .copies _ _ .nil
  have parts : "SELECT a,b FROM t WHERE a<=b+1".toList = "SELECT a,".toList ++
      ("b FROM t WHERE a".toList ++ ("<=b+".toList ++ ("1".toList ++ []))) := by decide +kernel
  have parts' : "SELECT a, b FROM t WHERE a <=b+ 1".toList = "SELECT a,".toList ++
      ' ' :: ("b FROM t WHERE a".toList ++ ' ' :: ("<=b+".toList ++ ' ' :: ("1".toList ++ []))) := by
    decide +kernel
  rw [← parts, ← parts'] at respaced
  have accepted : (parse "SELECT a,b FROM t WHERE a<=b+1").isOk := by decide +kernel
  cases parsed : parse "SELECT a,b FROM t WHERE a<=b+1" with
  | ok s => exact parse_respaced respaced parsed
  | error e =>
    rw [parsed] at accepted
    cases accepted

/-- A blank in front of a plus behind an unquoted word makes a text of the word. -/
theorem blank_before_plus :
    Respaced (fun before next => (TokenPlace.ofText before).admits next) []
        "SELECT * FROM t WHERE a = b+1".toList "SELECT * FROM t WHERE a = b +1".toList ∧
      (parse "SELECT * FROM t WHERE a = b+1").isOk ∧
      parse "SELECT * FROM t WHERE a = b +1" = .error (.statement 28 (.unexpected "+1")) := by
  have parts : "SELECT * FROM t WHERE a = b+1".toList =
      "SELECT * FROM t WHERE a = b".toList ++ ("+1".toList ++ []) := by decide +kernel
  have parts' : "SELECT * FROM t WHERE a = b +1".toList =
      "SELECT * FROM t WHERE a = b".toList ++ ' ' :: ("+1".toList ++ []) := by decide +kernel
  refine ⟨?_, by decide +kernel, by decide +kernel⟩
  rw [parts, parts']
  exact .copies _ _ (.gap rfl (by decide +kernel) (.copies _ _ .nil))

end Statement

end PlainTables
