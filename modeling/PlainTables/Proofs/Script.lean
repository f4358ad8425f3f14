import PlainTables.Proofs.Spacing.Statement
import PlainTables.Script

/-!
# Scripts of statements

A script of statements with semicolons between them is taken apart into the same statements. The splitter knows
single quotes only, which it counts inside of names as well.
-/

namespace PlainTables

open Lexis
open Text (isBlank)

/-- Inside of names the single quotes come in pairs, and semicolons stand between the two of a pair. The place is
that of the first character, and `odd` says whether the first of a pair has been met in a name. -/
def namesPaired (place : TokenPlace) (odd : Bool) : List Char → Bool
  | [] => !odd
  | c :: s =>
    if place = .quoted '"' then
      (c ≠ ';' || odd) && namesPaired (place.after c) (odd != (c = '\'')) s
    else if c = '"' then namesPaired (place.after c) odd s
    else !odd && namesPaired (place.after c) false s

namespace Script

def prepend (t : List Char) : List (List Char) → List (List Char)
  | part :: rest => (t ++ part) :: rest
  | [] => [t]

/-- The splitter goes over the text without an end of a part in it. The flags say whether it is inside of quotes
in front of the text and behind it. -/
inductive Passes : Bool → List Char → Bool → Prop
  | nil (b : Bool) : Passes b [] b
  | cons {b b' : Bool} {c : Char} {t : List Char} : (c = ';' → b = true) →
      Passes (if c = '\'' then !b else b) t b' → Passes b (c :: t) b'

variable {b b' : Bool} {s t : List Char}

theorem parts_ne_nil (b : Bool) (s : List Char) : parts b s ≠ [] := by
  cases s with
  | nil => exact List.cons_ne_nil _ _
  | cons c s =>
    unfold parts
    split
    · exact List.cons_ne_nil _ _
    · split <;> exact List.cons_ne_nil _ _

theorem parts_append (passes : Passes b t b') (s : List Char) :
    parts b (t ++ s) = prepend t (parts b' s) := by
  induction passes with
  | nil b =>
    obtain ⟨part, rest, same⟩ := List.exists_cons_of_ne_nil (parts_ne_nil b s)
    rw [List.nil_append, same]
    rfl
  | @cons b b' c t inside _ ih =>
    have goesOn : (c = ';' && !b) = false := by
      by_cases semicolon : c = ';'
      · rw [inside semicolon, Bool.not_true, Bool.and_false]
      · rw [decide_eq_false semicolon, Bool.false_and]
    rw [List.cons_append, parts, goesOn, if_neg Bool.false_ne_true, ih]
    cases parts b' s <;> rfl

theorem Passes.append {c : Bool} (front : Passes b s b') (behind : Passes b' t c) :
    Passes b (s ++ t) c := by
  induction front with
  | nil => exact behind
  | cons inside _ ih => exact .cons inside (ih behind)

theorem passes_of_plain (b : Bool) (plain : ∀ c ∈ t, isPlain c) : Passes b t b := by
  induction t with
  | nil => exact .nil b
  | cons c t ih =>
    obtain ⟨first, others⟩ := List.forall_mem_cons.mp plain
    simp only [isPlain, Bool.and_eq_true, decide_eq_true_eq] at first
    refine .cons (fun semicolon => absurd semicolon first.2) ?_
    rw [if_neg first.1.1]
    exact ih others

/-! ## Statements and the splitter -/

def SemicolonsQuoted (before t : List Char) : Prop :=
  ∀ front rest, t = front ++ ';' :: rest → (TokenPlace.ofText (before ++ front)).isOpen = false

theorem semicolonsQuoted_of_closed {before : List Char} (closed : Closed t)
    (isOpen : (TokenPlace.ofText before).isOpen) : SemicolonsQuoted before t := by
  induction closed generalizing before with
  | nil =>
    intro front rest parts
    simp at parts
  | @plain c t plain _ ih =>
    intro front rest parts
    simp only [isPlain, Bool.and_eq_true, decide_eq_true_eq] at plain
    cases front with
    | nil =>
      cases parts
      exact absurd rfl plain.2
    | cons d front =>
      cases parts
      have next : (TokenPlace.ofText (before ++ [c])).isOpen := by
        rw [TokenPlace.ofText_concat]
        exact TokenPlace.isOpen_after isOpen plain.1
      rw [List.append_cons]
      exact ih next front rest rfl
  | @quoted q inner t isQuote closes _ ih =>
    have opened : TokenPlace.ofText (before ++ [q]) = .quoted q :=
      Spacing.IsQuote.opens isQuote isOpen
    have atEnd := TokenPlace.ofText_append_of_not_mem opened closes
    have shut : (TokenPlace.ofText (before ++ [q] ++ inner ++ [q])).isOpen := by
      rw [TokenPlace.ofText_closing atEnd]
      rfl
    intro front rest parts
    cases front with
    | nil =>
      cases parts
      rcases isQuote with same | same <;> cases same
    | cons d front =>
      rw [List.cons_append, List.cons.injEq] at parts
      obtain ⟨rfl, parts⟩ := parts
      rw [List.append_cons]
      rcases List.append_eq_append_iff.mp parts with
        ⟨behind, rfl, others⟩ | ⟨behind, rfl, others⟩
      · -- The semicolon stands behind the quote that closes the text.
        cases behind with
        | nil =>
          cases others
          rcases isQuote with same | same <;> cases same
        | cons e behind =>
          cases others
          rw [← List.append_assoc, List.append_cons]
          exact ih shut behind rest rfl
      · rw [List.mem_append, not_or] at closes
        rw [TokenPlace.ofText_append_of_not_mem opened closes.1]
        rfl

def inQuotes (place : TokenPlace) (odd : Bool) : Bool :=
  odd || place = .quoted '\''

theorem inQuotes_of_isOpen {p : TokenPlace} (isOpen : p.isOpen) (odd : Bool) : inQuotes p odd = odd := by
  have other : p ≠ .quoted '\'' := by
    rintro rfl
    cases isOpen
  simp [inQuotes, other]

/-- The splitter is in step with a statement behind one more character: at this place and with this state the
names go on, and the splitter has not met the end of a part. -/
def InStep (p : TokenPlace) (odd : Bool) (c : Char) (s : List Char) : Prop :=
  ∃ odd', (c = ';' → inQuotes p odd = true) ∧
    (if c = '\'' then !inQuotes p odd else inQuotes p odd) = inQuotes (p.after c) odd' ∧
    (p.after c = .quoted '\'' → odd' = false) ∧ namesPaired (p.after c) odd' s

theorem inStep_outside {p : TokenPlace} {odd : Bool} {c : Char} (isOpen : p.isOpen) (noSemicolon : c ≠ ';')
    (paired : namesPaired p odd (c :: s)) : InStep p odd c s := by
  have noName : p ≠ .quoted '"' := by
    rintro rfl
    cases isOpen
  rw [namesPaired, if_neg noName] at paired
  by_cases name : c = '"'
  · subst name
    have after : p.after '"' = .quoted '"' := Spacing.IsQuote.after (.inr rfl) isOpen
    rw [if_pos rfl] at paired
    refine ⟨odd, fun semicolon => absurd semicolon noSemicolon, ?_, ?_, paired⟩
    · rw [if_neg (by decide), inQuotes_of_isOpen isOpen, after]
      simp [inQuotes]
    · rw [after]
      rintro ⟨⟩
  · rw [if_neg name, Bool.and_eq_true, Bool.not_eq_true'] at paired
    obtain ⟨rfl, paired⟩ := paired
    refine ⟨false, fun semicolon => absurd semicolon noSemicolon, ?_, fun _ => rfl, paired⟩
    rw [inQuotes_of_isOpen isOpen]
    by_cases text : c = '\''
    · subst text
      rw [if_pos rfl, Spacing.IsQuote.after (.inl rfl) isOpen]
      rfl
    · rw [if_neg text, inQuotes_of_isOpen (TokenPlace.isOpen_after isOpen ⟨text, name⟩)]

theorem inStep_text {c : Char} (paired : namesPaired (.quoted '\'') false (c :: s)) :
    InStep (.quoted '\'') false c s := by
  rw [namesPaired, if_neg (by decide)] at paired
  refine ⟨false, fun _ => rfl, ?_, fun _ => rfl, ?_⟩
  · by_cases text : c = '\''
    · simp [text, TokenPlace.after, inQuotes]
    · simp [text, TokenPlace.after, inQuotes]
  · split at paired
    · exact paired
    · exact (Bool.and_eq_true_iff.mp paired).2

theorem inStep_name {odd : Bool} {c : Char} (paired : namesPaired (.quoted '"') odd (c :: s)) :
    InStep (.quoted '"') odd c s := by
  rw [namesPaired, if_pos rfl, Bool.and_eq_true] at paired
  have noText : TokenPlace.after (.quoted '"') c ≠ .quoted '\'' := by
    simp only [TokenPlace.after]
    split <;> decide
  have state (odd : Bool) : inQuotes (TokenPlace.after (.quoted '"') c) odd = odd := by
    simp [inQuotes, noText]
  refine ⟨_, ?_, ?_, fun text => absurd text noText, paired.2⟩
  · rintro rfl
    simpa [inQuotes] using paired.1
  · rw [state]
    by_cases text : c = '\''
    · cases odd <;> simp [text, inQuotes]
    · cases odd <;> simp [text, inQuotes]

theorem inStep_of_namesPaired {p : TokenPlace} {odd : Bool} {c : Char}
    (isQuote : ∀ q, p = .quoted q → q = '\'' ∨ q = '"') (single : p = .quoted '\'' → odd = false)
    (quoted : c = ';' → p.isOpen = false) (paired : namesPaired p odd (c :: s)) :
    InStep p odd c s := by
  cases isOpen : p.isOpen with
  | true =>
    refine inStep_outside isOpen (fun semicolon => ?_) paired
    rw [quoted semicolon] at isOpen
    cases isOpen
  | false =>
    obtain ⟨q, rfl⟩ : ∃ q, p = .quoted q := by
      cases p with
      | quoted q => exact ⟨q, rfl⟩
      | _ => cases isOpen
    rcases isQuote q rfl with rfl | rfl
    · obtain rfl := single rfl
      exact inStep_text paired
    · exact inStep_name paired

theorem passes_of_namesPaired {before t rest : List Char} {odd : Bool}
    (quoted : SemicolonsQuoted before t) (single : TokenPlace.ofText before = .quoted '\'' → odd = false)
    (paired : namesPaired (TokenPlace.ofText before) odd (t ++ rest)) :
    ∃ odd', Passes (inQuotes (TokenPlace.ofText before) odd) t
        (inQuotes (TokenPlace.ofText (before ++ t)) odd') ∧
      namesPaired (TokenPlace.ofText (before ++ t)) odd' rest := by
  induction t generalizing before odd with
  | nil =>
    rw [List.append_nil]
    exact ⟨odd, .nil _, paired⟩
  | cons c t ih =>
    have here : c = ';' → (TokenPlace.ofText before).isOpen = false := by
      rintro rfl
      have atStart := quoted [] t rfl
      rwa [List.append_nil] at atStart
    obtain ⟨odd', inside, step, single', paired'⟩ :=
      inStep_of_namesPaired (fun q => TokenPlace.isQuote_of_quoted) single here paired
    rw [← TokenPlace.ofText_concat] at step single' paired'
    have behind : SemicolonsQuoted (before ++ [c]) t := by
      intro front rest parts
      rw [← List.append_cons]
      exact quoted (c :: front) rest (by rw [parts]; rfl)
    obtain ⟨odd'', passes, paired''⟩ := ih behind single' paired'
    rw [← List.append_cons] at passes paired''
    exact ⟨odd'', .cons inside (by rw [step]; exact passes), paired''⟩

theorem even_of_ending {p : TokenPlace} {odd : Bool} {ending : List Char} (isOpen : p.isOpen)
    (noName : ending.head? ≠ some '"') (paired : namesPaired p odd ending) : odd = false := by
  cases ending with
  | nil => simpa [namesPaired] using paired
  | cons c ending =>
    have outside : p ≠ .quoted '"' := by
      rintro rfl
      cases isOpen
    have other : c ≠ '"' := by simpa using noName
    rw [namesPaired, if_neg outside, if_neg other, Bool.and_eq_true, Bool.not_eq_true'] at paired
    exact paired.1

theorem isPlain_of_isBlank {c : Char} (blank : isBlank c) : isPlain c := by
  have plain : Plain isBlank := by decide
  exact plain.isPlain blank

theorem passes_core {lead core ending : List Char} {written : Statement}
    (isCore : Statement.IsCore core written) (blank : ∀ c ∈ lead, isBlank c)
    (noName : ending.head? ≠ some '"')
    (paired : namesPaired .free false (lead ++ core ++ ending)) :
    Passes false (lead ++ core) false := by
  have closed : Closed (lead ++ core) :=
    (Closed.of_plain fun c mem => isPlain_of_isBlank (blank c mem)).append isCore.closed
  have isOpen : (TokenPlace.ofText ([] ++ (lead ++ core))).isOpen :=
    TokenPlace.isOpen_append_closed rfl closed
  have quoted : SemicolonsQuoted [] (lead ++ core) := semicolonsQuoted_of_closed closed rfl
  have single : TokenPlace.ofText [] = .quoted '\'' → false = false := fun _ => rfl
  obtain ⟨odd, passes, behind⟩ := passes_of_namesPaired quoted single paired
  obtain rfl := even_of_ending isOpen noName behind
  rw [inQuotes_of_isOpen isOpen] at passes
  exact passes

/-! ## The statements of a script -/

def texts (s : List Char) : List (List Char) :=
  ((parts false s).map Text.trim).filter (!·.isEmpty)

theorem parts_of_passes (passes : Passes b t b') : parts b t = [t] := by
  have whole := parts_append passes []
  rw [List.append_nil] at whole
  rw [whole]
  simp [parts, prepend]

theorem parts_semicolon (passes : Passes b t false) (s : List Char) :
    parts b (t ++ ';' :: s) = t :: parts false s := by
  rw [parts_append passes]
  simp [parts, prepend]

theorem texts_of_blank (blank : ∀ c ∈ t, isBlank c) :
    texts t = [] ∧ ∀ s, texts (t ++ ';' :: s) = texts s := by
  have passes : Passes false t false :=
    passes_of_plain false fun c mem => isPlain_of_isBlank (blank c mem)
  have none : Text.trim t = [] := by
    rw [Text.trim, Text.trimLeft_of_blanks blank]
    rfl
  constructor
  · simp [texts, parts_of_passes passes, none]
  · intro s
    simp [texts, parts_semicolon passes, none]

theorem texts_of_passes {core : List Char} (passes : Passes false t false)
    (trimmed : Text.trim t = core) (nonempty : core ≠ []) :
    texts t = [core] ∧ ∀ s, texts (t ++ ';' :: s) = core :: texts s := by
  constructor
  · simp [texts, parts_of_passes passes, trimmed, nonempty]
  · intro s
    simp [texts, parts_semicolon passes, trimmed, nonempty]

theorem texts_of_semicolons {semicolons gap : List Char} (isSemicolon : ∀ c ∈ semicolons, c = ';')
    (blank : ∀ c ∈ gap, isBlank c) :
    texts (semicolons ++ gap) = [] ∧ ∀ s, texts (semicolons ++ gap ++ ';' :: s) = texts s := by
  induction semicolons with
  | nil => exact texts_of_blank blank
  | cons c semicolons ih =>
    obtain ⟨rfl, others⟩ := List.forall_mem_cons.mp isSemicolon
    obtain ⟨none, skips⟩ := ih others
    obtain ⟨-, first⟩ := texts_of_blank (t := []) nofun
    exact ⟨(first _).trans none, fun s => (first _).trans (skips s)⟩

theorem texts_of_parts {lead core ending : List Char} (tight : Statement.Tight core)
    (blank : ∀ c ∈ lead, isBlank c) (passes : Passes false (lead ++ core) false)
    (ends : Statement.Ending ending) :
    texts (lead ++ core ++ ending) = [core] ∧
      ∀ script, texts (lead ++ core ++ ending ++ ';' :: script) = core :: texts script := by
  obtain ⟨gap, semicolons, gap', rfl, blankGap, isSemicolon, blankGap'⟩ := ends
  have nonempty : core ≠ [] := by
    obtain ⟨c, first, -⟩ := tight.first
    rintro rfl
    cases first
  -- The blanks behind the core stand in its part.
  have extend {gap : List Char} (blankGap : ∀ c ∈ gap, isBlank c) :=
    texts_of_passes (passes.append (passes_of_plain false fun c mem =>
      isPlain_of_isBlank (blankGap c mem))) (tight.trim blank blankGap) nonempty
  cases semicolons with
  | nil =>
    have blanks : ∀ c ∈ gap ++ gap', isBlank c := fun c mem =>
      (List.mem_append.mp mem).elim (blankGap c) (blankGap' c)
    rw [List.append_nil]
    exact extend blanks
  | cons c semicolons =>
    obtain ⟨rfl, others⟩ := List.forall_mem_cons.mp isSemicolon
    obtain ⟨none, skips⟩ := texts_of_semicolons others blankGap'
    have first := (extend blankGap).2
    have parts : lead ++ core ++ (gap ++ ';' :: semicolons ++ gap') =
        lead ++ core ++ gap ++ ';' :: (semicolons ++ gap') := by
      simp only [List.append_assoc, List.cons_append]
    rw [parts]
    refine ⟨by rw [first, none], fun script => ?_⟩
    rw [List.append_assoc, List.cons_append, first, skips]

theorem head?_ne_of_ending {ending : List Char} (ends : Statement.Ending ending) :
    ending.head? ≠ some '"' := by
  obtain ⟨gap, semicolons, gap', rfl, blankGap, isSemicolon, blankGap'⟩ := ends
  intro first
  have mem := List.mem_of_mem_head? (Option.mem_def.mpr first)
  rw [List.mem_append, List.mem_append] at mem
  rcases mem with (inGap | semicolon) | inGap
  · cases blankGap _ inGap
  · cases isSemicolon _ semicolon
  · cases blankGap' _ inGap

/-- A statement is one of the texts of every script that starts with it. -/
theorem texts_of_statement {sql : String} {s : Statement} (parsed : Statement.parse sql = .ok s)
    (paired : namesPaired .free false sql.toList) :
    ∃ core, Statement.parse (String.ofList core) = .ok s ∧ texts sql.toList = [core] ∧
      ∀ script, texts (sql.toList ++ ';' :: script) = core :: texts script := by
  obtain ⟨core, written, ⟨lead, ending, whole, blank, ends⟩, isCore, rfl⟩ :=
    Statement.exists_core parsed
  rw [whole] at paired ⊢
  have passes := passes_core isCore blank (head?_ne_of_ending ends) paired
  exact ⟨core, Statement.parse_core isCore, texts_of_parts isCore.tight blank passes ends⟩

/-- Taking a script of statements apart gives the statements that it was put together from, as long as single
quotes in their names come in pairs. -/
theorem statements_intercalate {sqls : List String}
    (accepted : ∀ sql ∈ sqls, (Statement.parse sql).isOk)
    (paired : ∀ sql ∈ sqls, namesPaired .free false sql.toList) :
    (statements (";".intercalate sqls)).map Statement.parse = sqls.map Statement.parse := by
  have found {sql : String} (isOk : (Statement.parse sql).isOk)
      (paired : namesPaired .free false sql.toList) :
      ∃ core, Statement.parse (String.ofList core) = Statement.parse sql ∧
        texts sql.toList = [core] ∧
        ∀ script, texts (sql.toList ++ ';' :: script) = core :: texts script := by
    cases parsed : Statement.parse sql with
    | ok s => exact texts_of_statement parsed paired
    | error e =>
      rw [parsed] at isOk
      cases isOk
  have unfolded (script : String) :
      statements script = (texts script.toList).map String.ofList := rfl
  rw [unfolded]
  induction sqls with
  | nil => rfl
  | cons sql sqls ih =>
    obtain ⟨isOk, accepted⟩ := List.forall_mem_cons.mp accepted
    obtain ⟨pairedFirst, paired⟩ := List.forall_mem_cons.mp paired
    obtain ⟨core, same, alone, more⟩ := found isOk pairedFirst
    cases sqls with
    | nil => simp [alone, same]
    | cons other sqls =>
      have parts : (";".intercalate (sql :: other :: sqls)).toList =
          sql.toList ++ ';' :: (";".intercalate (other :: sqls)).toList := by
        rw [String.intercalate_cons_cons]
        simp
      rw [parts, more, List.map_cons, List.map_cons, List.map_cons, ih accepted paired, same]

theorem statements_of_text_and_name :
    (statements (";".intercalate ["SELECT 'it''s; so' x", " SELECT \"q\" FROM t;"])).map
        Statement.parse =
      [Statement.parse "SELECT 'it''s; so' x", Statement.parse " SELECT \"q\" FROM t;"] :=
  statements_intercalate (by decide +kernel) (by decide +kernel)

/-- A single quote in a name hides the semicolon behind its statement. -/
theorem statements_of_quote_in_name :
    (∀ sql ∈ ["SELECT \"it's\" FROM t", "SELECT 1 AS x"], (Statement.parse sql).isOk) ∧
      statements (";".intercalate ["SELECT \"it's\" FROM t", "SELECT 1 AS x"]) =
        ["SELECT \"it's\" FROM t;SELECT 1 AS x"] := by
  decide +kernel

end Script

end PlainTables
