import PlainTables.Proofs.Text.Ends
import PlainTables.Splitting.Delimited

/-!
# Writing and reading delimited records

A field is written as it is or inside quotes, and then it may go over several lines. What has been
read in front of a line break is always the front of a quoted field.
-/

namespace PlainTables.Delimiters

open Text (doubled doubled_cons getLast?_doubled)

/-- Reading the text takes the progress on to the other one, whatever comes after it. -/
def Takes (d : Delimiters) (p : Progress) (text : List Char) (p' : Progress) : Prop :=
  ∀ position rest, d.scan position p (text ++ rest) = d.scan (position + text.length) p' rest

variable {s q : Char}

theorem Takes.nil {d : Delimiters} (p : Progress) : d.Takes p [] p :=
  fun _ _ => rfl

theorem Takes.trans {d : Delimiters} {p p' p'' : Progress} {text more : List Char}
    (first : d.Takes p text p') (second : d.Takes p' more p'') : d.Takes p (text ++ more) p'' := by
  intro position rest
  rw [List.append_assoc, first, second, List.length_append, Nat.add_assoc]

/-- What the text does from the start is what its end does from the middle. -/
theorem Takes.scan_eq {d : Delimiters} {p p' p'' : Progress} {front back : List Char}
    (first : d.Takes p front p') (both : d.Takes p (front ++ back) p'') (rest : List Char) :
    d.scan front.length p' (back ++ rest) = d.scan (front.length + back.length) p'' rest := by
  have whole := both 0 rest
  rw [List.append_assoc, first, Nat.zero_add, Nat.zero_add, List.length_append] at whole
  exact whole

theorem takes_char {p : Progress} {c : Char} (notQuote : c ≠ q) (inField : c ≠ s ∨ p.quoted = true) :
    Takes ⟨s, some q⟩ p [c] { p with value := p.value ++ [c] } := by
  intro position rest
  have kept : ¬ (c = s && !p.quoted) = true := by
    rcases inField with notSeparator | quoted
    · simp [notSeparator]
    · simp [quoted]
  rw [List.singleton_append, scan.eq_def]
  simp only [Option.some.injEq, notQuote, if_false, kept]
  rfl

theorem takes_opening (fields : List (List Char)) :
    Takes ⟨s, some q⟩ ⟨fields, [], false⟩ [q] ⟨fields, [], true⟩ := by
  intro position rest
  rw [List.singleton_append, scan.eq_def]
  simp

/-- A field that is open takes a doubled quote for one, also outside quotes. -/
theorem takes_doubled_quote {p : Progress} (opened : p.value ≠ [] ∨ p.quoted = true) :
    Takes ⟨s, some q⟩ p [q, q] { p with value := p.value ++ [q] } := by
  intro position rest
  have kept : ¬ (p.value.isEmpty && !p.quoted) = true := by
    rcases opened with nonempty | quoted
    · simp [nonempty]
    · simp [quoted]
  show scan _ position p (q :: q :: rest) = _
  rw [scan.eq_def]
  simp only [if_true, kept]
  rfl

/-- The separator and the quote differ from each other and from what ends a line. -/
structure Apart (s q : Char) : Prop where
  distinct : s ≠ q
  separatorNewline : s ≠ '\n'
  separatorReturn : s ≠ '\r'
  quoteNewline : q ≠ '\n'
  quoteReturn : q ≠ '\r'

theorem takes_closing (distinct : s ≠ q) (fields : List (List Char)) (value : List Char) :
    Takes ⟨s, some q⟩ ⟨fields, value, true⟩ [q, s] ⟨fields ++ [value], [], false⟩ := by
  intro position rest
  simp [scan, distinct]

theorem takes_separator (distinct : s ≠ q) (fields : List (List Char)) (value : List Char) :
    Takes ⟨s, some q⟩ ⟨fields, value, false⟩ [s] ⟨fields ++ [value], [], false⟩ := by
  intro position rest
  rw [List.singleton_append, scan.eq_def]
  simp [distinct]

theorem takes_doubled (fields : List (List Char)) (value text : List Char) :
    Takes ⟨s, some q⟩ ⟨fields, value, true⟩ (doubled q text) ⟨fields, value ++ text, true⟩ := by
  induction text generalizing value with
  | nil =>
    rw [List.append_nil]
    exact .nil _
  | cons c text ih =>
    have first : Takes ⟨s, some q⟩ ⟨fields, value, true⟩ (if c = q then [q, q] else [c])
        ⟨fields, value ++ [c], true⟩ := by
      by_cases isQuote : c = q
      · rw [if_pos isQuote, isQuote]
        exact takes_doubled_quote (p := ⟨fields, value, true⟩) (.inr rfl)
      · rw [if_neg isQuote]
        exact takes_char (p := ⟨fields, value, true⟩) isQuote (.inr rfl)
    rw [doubled_cons, List.append_cons]
    exact first.trans (ih _)

theorem takes_bare (fields : List (List Char)) (value : List Char) {text : List Char}
    (noSeparator : s ∉ text) (noQuote : q ∉ text) :
    Takes ⟨s, some q⟩ ⟨fields, value, false⟩ text ⟨fields, value ++ text, false⟩ := by
  induction text generalizing value with
  | nil =>
    rw [List.append_nil]
    exact .nil _
  | cons c text ih =>
    rw [List.mem_cons, not_or] at noSeparator noQuote
    have first := takes_char (s := s) (p := ⟨fields, value, false⟩) (Ne.symm noQuote.1)
      (.inl (Ne.symm noSeparator.1))
    rw [List.append_cons]
    exact first.trans (ih _ noSeparator.2 noQuote.2)

/-- The ways to write a field: as it is, or with quotes around it. -/
inductive WritesField (s q : Char) (field : List Char) : List Char → Prop
  | bare : s ∉ field → q ∉ field → '\n' ∉ field → WritesField s q field field
  | quoted : WritesField s q field (q :: (doubled q field ++ [q]))

/-- The ways to write a record, which has at least one field, without its ending. -/
inductive WritesRecord (s q : Char) : List (List Char) → List Char → Prop
  | last {field text} : WritesField s q field text → WritesRecord s q [field] text
  | cons {field text fields more} : WritesField s q field text → WritesRecord s q fields more →
      WritesRecord s q (field :: fields) (text ++ s :: more)

theorem WritesField.takes (distinct : s ≠ q) (fields : List (List Char)) {field text : List Char}
    (writes : WritesField s q field text) :
    Takes ⟨s, some q⟩ ⟨fields, [], false⟩ (text ++ [s]) ⟨fields ++ [field], [], false⟩ := by
  cases writes with
  | bare noSeparator noQuote =>
    have inside := takes_bare fields [] noSeparator noQuote
    exact inside.trans (takes_separator distinct fields _)
  | quoted =>
    have inside := (takes_opening (s := s) (q := q) fields).trans (takes_doubled fields [] field)
    have whole := inside.trans (takes_closing distinct fields _)
    simpa using whole

theorem WritesRecord.takes (distinct : s ≠ q) (before : List (List Char))
    {fields : List (List Char)} {text : List Char} (writes : WritesRecord s q fields text) :
    Takes ⟨s, some q⟩ ⟨before, [], false⟩ (text ++ [s]) ⟨before ++ fields, [], false⟩ := by
  induction writes generalizing before with
  | last field => exact field.takes distinct before
  | @cons field text fields more first _ ih =>
    have both := (first.takes distinct before).trans (ih (before ++ [field]))
    simpa using both

theorem doubled_eq_append {text front back : List Char} (notQuote : q ≠ '\n')
    (breaks : doubled q text ++ [q] = front ++ '\n' :: back) :
    ∃ front' back', text = front' ++ '\n' :: back' ∧ front = doubled q front' := by
  induction text generalizing front with
  | nil =>
    cases front with
    | nil => exact absurd (List.cons.inj breaks).1 notQuote
    | cons a front => simp [doubled] at breaks
  | cons c text ih =>
    rw [doubled_cons, List.append_assoc] at breaks
    by_cases isQuote : c = q
    · rw [if_pos isQuote] at breaks
      rcases front with _ | ⟨a, _ | ⟨b, front⟩⟩
      · exact absurd (List.cons.inj breaks).1 notQuote
      · exact absurd (List.cons.inj (List.cons.inj breaks).2).1 notQuote
      · simp only [List.cons_append, List.nil_append, List.cons.injEq] at breaks
        obtain ⟨first, second, breaks⟩ := breaks
        obtain ⟨front', back', rfl, rfl⟩ := ih breaks
        refine ⟨c :: front', back', rfl, ?_⟩
        rw [doubled_cons, if_pos isQuote, ← first, ← second]
        rfl
    · rw [if_neg isQuote] at breaks
      cases front with
      | nil =>
        obtain ⟨first, _⟩ := List.cons.inj breaks
        exact ⟨[], text, by rw [first]; rfl, rfl⟩
      | cons a front =>
        simp only [List.cons_append, List.nil_append, List.cons.injEq] at breaks
        obtain ⟨first, breaks⟩ := breaks
        obtain ⟨front', back', rfl, rfl⟩ := ih breaks
        refine ⟨c :: front', back', rfl, ?_⟩
        rw [doubled_cons, if_neg isQuote, ← first]
        rfl

/-- No line of the text but the last one ends with a carriage return. -/
def NoLineReturn (text : List Char) : Prop :=
  ¬ ['\r', '\n'] <:+: text

instance : DecidablePred NoLineReturn :=
  fun text => inferInstanceAs (Decidable (¬ ['\r', '\n'] <:+: text))

theorem WritesField.takes_front (apart : Apart s q) (before : List (List Char))
    {field front back : List Char} (noReturn : NoLineReturn field)
    (writes : WritesField s q field (front ++ '\n' :: back)) :
    (∃ value, Takes ⟨s, some q⟩ ⟨before, [], false⟩ front ⟨before, value, true⟩) ∧
      front.getLast? ≠ some '\r' := by
  generalize breaks : front ++ '\n' :: back = text at writes
  cases writes with
  | bare _ _ oneLine => simp [← breaks] at oneLine
  | quoted =>
    cases front with
    | nil => exact absurd (List.cons.inj breaks).1.symm apart.quoteNewline
    | cons a front =>
      obtain ⟨rfl, breaks⟩ := List.cons.inj breaks
      obtain ⟨front', back', rfl, rfl⟩ := doubled_eq_append apart.quoteNewline breaks.symm
      refine ⟨⟨front', ?_⟩, ?_⟩
      · exact (takes_opening before).trans (takes_doubled before [] front')
      · rw [List.getLast?_cons, getLast?_doubled]
        intro last
        cases inner : front'.getLast? with
        | none =>
          rw [inner] at last
          exact apart.quoteReturn (Option.some.inj last)
        | some c =>
          rw [inner] at last
          obtain rfl : c = '\r' := Option.some.inj last
          obtain ⟨init, rfl⟩ := List.getLast?_eq_some_iff.mp inner
          exact noReturn ⟨init, back', by simp⟩

theorem WritesRecord.takes_front (apart : Apart s q) (before : List (List Char))
    {fields : List (List Char)} {front back text : List Char}
    (noReturn : ∀ field ∈ fields, NoLineReturn field) (writes : WritesRecord s q fields text)
    (breaks : text = front ++ '\n' :: back) :
    (∃ complete value, Takes ⟨s, some q⟩ ⟨before, [], false⟩ front ⟨complete, value, true⟩) ∧
      front.getLast? ≠ some '\r' := by
  induction writes generalizing before front with
  | last field =>
    rw [breaks] at field
    obtain ⟨⟨value, takes⟩, last⟩ :=
      field.takes_front apart before (noReturn _ List.mem_cons_self)
    exact ⟨⟨before, value, takes⟩, last⟩
  | @cons field text fields more first rest ih =>
    rcases List.append_eq_append_iff.mp breaks with ⟨inner, rfl, after⟩ | ⟨inner, rfl, after⟩
    · cases inner with
      | nil => exact absurd (List.cons.inj after).1 apart.separatorNewline
      | cons a inner =>
        simp only [List.cons_append, List.cons.injEq] at after
        obtain ⟨rfl, after⟩ := after
        obtain ⟨⟨complete, value, takes⟩, last⟩ := ih (before ++ [field])
          (fun field mem => noReturn field (List.mem_cons_of_mem _ mem)) after
        refine ⟨⟨complete, value, ?_⟩, ?_⟩
        · rw [List.append_cons]
          exact (first.takes apart.distinct before).trans takes
        · cases inner with
          | nil => simpa using apart.separatorReturn
          | cons b inner => simpa [List.getLast?_cons] using last
    · cases inner with
      | nil => exact absurd (List.cons.inj after).1.symm apart.separatorNewline
      | cons a inner =>
        obtain ⟨rfl, after⟩ := List.cons.inj after
        obtain ⟨⟨value, takes⟩, last⟩ :=
          first.takes_front apart before (noReturn _ List.mem_cons_self)
        exact ⟨⟨before, value, takes⟩, last⟩

theorem NoLineReturn.of_append {text more : List Char} (noReturn : NoLineReturn (text ++ more)) :
    NoLineReturn text :=
  fun inside => noReturn (inside.trans (List.prefix_append text more).isInfix)

/-- A carriage return at the end of a record belongs to its last field, and trimming drops it. -/
theorem WritesRecord.of_concat (apart : Apart s q) {fields : List (List Char)} {text : List Char}
    (noReturn : ∀ field ∈ fields, NoLineReturn field)
    (writes : WritesRecord s q fields (text ++ ['\r'])) :
    ∃ fields', WritesRecord s q fields' text ∧ fields'.map Text.trim = fields.map Text.trim ∧
      ∀ field ∈ fields', NoLineReturn field := by
  generalize whole : text ++ ['\r'] = written at writes
  induction writes generalizing text with
  | @last field _ writes =>
    cases writes with
    | bare noSeparator noQuote oneLine =>
      subst whole
      simp only [List.mem_append, not_or] at noSeparator noQuote oneLine
      refine ⟨[text], .last (.bare noSeparator.1 noQuote.1 oneLine.1), ?_, ?_⟩
      · rw [List.map_singleton, List.map_singleton, Text.trim_concat text (by decide)]
      · intro field mem
        rw [List.mem_singleton.mp mem]
        exact (noReturn _ List.mem_cons_self).of_append
    | quoted =>
      rw [← List.cons_append] at whole
      have last := (List.append_inj' whole rfl).2
      exact absurd (List.cons.inj last).1.symm apart.quoteReturn
  | @cons field start fields more first rest ih =>
    rcases List.eq_nil_or_concat more with rfl | ⟨front, c, rfl⟩
    · have last := (List.append_inj' whole rfl).2
      exact absurd (List.cons.inj last).1.symm apart.separatorReturn
    · rw [List.concat_eq_append] at whole
      have parts : text ++ ['\r'] = (start ++ s :: front) ++ [c] := by
        rw [whole, List.append_assoc, List.cons_append]
      obtain ⟨rfl, last⟩ := List.append_inj' parts rfl
      obtain ⟨fields', writes', sameTrim, noReturn'⟩ :=
        ih (fun field mem => noReturn field (List.mem_cons_of_mem _ mem))
          (by rw [last, List.concat_eq_append])
      refine ⟨field :: fields', .cons first writes', ?_, ?_⟩
      · rw [List.map_cons, List.map_cons, sameTrim]
      · intro other mem
        rcases List.mem_cons.mp mem with isFirst | inRest
        · exact isFirst ▸ noReturn field List.mem_cons_self
        · exact noReturn' other inRest

end PlainTables.Delimiters
