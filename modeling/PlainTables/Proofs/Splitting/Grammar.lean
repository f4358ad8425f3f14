import PlainTables.Proofs.Splitting.Delimited

/-!
# The grammar of a delimited line

A line is read in one way at most. It has a reading exactly if it is split, into the values of the fields
read; a line without one ends inside quotes or has a quote in the wrong place.
-/

namespace PlainTables.Delimiters

/-- A piece of a field: a character that may stand there by itself, or a doubled quote. -/
inductive Piece (allowed : Char → Prop) where
  | plain (c : Char) (ok : allowed c)
  | doubled

inductive EncodedField (s q : Char) where
  | empty
  | bare (first : Char) (ok : first ≠ s ∧ first ≠ q) (more : List (Piece fun c => c ≠ s ∧ c ≠ q))
  | quoted (pieces : List (Piece fun c => c ≠ q))

variable {s q : Char} {allowed : Char → Prop}

namespace Piece

def spelling (q : Char) : List (Piece allowed) → List Char
  | [] => []
  | plain c _ :: ps => c :: spelling q ps
  | doubled :: ps => q :: q :: spelling q ps

def value (q : Char) : Piece allowed → Char
  | plain c _ => c
  | doubled => q

def Stops (allowed : Char → Prop) (q : Char) (text : List Char) : Prop :=
  (∀ c ∈ text.head?, ¬ allowed c) ∧ ¬ [q, q] <+: text

theorem exists_spelling (allowed : Char → Prop) (q : Char) :
    ∀ text : List Char, ∃ (ps : List (Piece allowed)) (rest : List Char),
      text = spelling q ps ++ rest ∧ Stops allowed q rest
  | [] => ⟨[], [], rfl, by simp [Stops]⟩
  | [c] => by
    by_cases ok : allowed c
    · exact ⟨[plain c ok], [], rfl, by simp [Stops]⟩
    · exact ⟨[], [c], rfl, by simpa [Stops] using ok⟩
  | c :: d :: text => by
    by_cases ok : allowed c
    · obtain ⟨ps, rest, spelled, stops⟩ := exists_spelling allowed q (d :: text)
      exact ⟨plain c ok :: ps, rest, by rw [spelled]; rfl, stops⟩
    · by_cases quotes : c = q ∧ d = q
      · obtain ⟨ps, rest, spelled, stops⟩ := exists_spelling allowed q text
        exact ⟨doubled :: ps, rest, by rw [spelled, quotes.1, quotes.2]; rfl, stops⟩
      · refine ⟨[], c :: d :: text, rfl, by simpa using ok, ?_⟩
        rintro ⟨rest, same⟩
        simp only [List.cons_append, List.nil_append, List.cons.injEq] at same
        exact quotes ⟨same.1.symm, same.2.1.symm⟩

theorem not_stops_cons {p : Piece allowed} {ps : List (Piece allowed)} {text rest : List Char}
    (starts : text = spelling q (p :: ps) ++ rest) : ¬ Stops allowed q text := by
  rintro ⟨first, quotes⟩
  subst starts
  cases p with
  | plain c ok => exact first c rfl ok
  | doubled => exact quotes ⟨spelling q ps ++ rest, rfl⟩

/-- Only one way to go on leads as far as possible. -/
theorem spelling_unique (notQuote : ¬ allowed q) {ps ps' : List (Piece allowed)}
    {rest rest' : List Char} (stops : Stops allowed q rest) (stops' : Stops allowed q rest')
    (same : spelling q ps ++ rest = spelling q ps' ++ rest') : ps = ps' ∧ rest = rest' := by
  induction ps generalizing ps' with
  | nil =>
    cases ps' with
    | nil => exact ⟨rfl, same⟩
    | cons p ps' => exact absurd stops (not_stops_cons same)
  | cons p ps ih =>
    cases ps' with
    | nil => exact absurd stops' (not_stops_cons same.symm)
    | cons p' ps' =>
      cases p with
      | plain c ok =>
        cases p' with
        | plain c' ok' =>
          obtain ⟨rfl, more⟩ := List.cons.inj same
          obtain ⟨rfl, rfl⟩ := ih more
          exact ⟨rfl, rfl⟩
        | doubled => exact absurd ((List.cons.inj same).1 ▸ ok) notQuote
      | doubled =>
        cases p' with
        | plain c' ok' => exact absurd ((List.cons.inj same).1 ▸ ok') notQuote
        | doubled =>
          obtain ⟨rfl, rfl⟩ := ih (List.cons.inj (List.cons.inj same).2).2
          exact ⟨rfl, rfl⟩

theorem takes_spelling {p : Progress} (opened : p.value ≠ [] ∨ p.quoted = true)
    (inside : ∀ c, allowed c → c ≠ q ∧ (c ≠ s ∨ p.quoted = true)) (ps : List (Piece allowed)) :
    Takes ⟨s, some q⟩ p (spelling q ps) { p with value := p.value ++ ps.map (value q) } := by
  induction ps generalizing p with
  | nil =>
    simp only [spelling, List.map_nil, List.append_nil]
    exact .nil p
  | cons piece ps ih =>
    have rest := fun c => ih (p := { p with value := p.value ++ [c] }) (.inl (by simp)) inside
    simp only [List.append_assoc, List.singleton_append] at rest
    cases piece with
    | plain c ok => exact (takes_char (inside c ok).1 (inside c ok).2).trans (rest c)
    | doubled => exact (takes_doubled_quote opened).trans (rest q)

end Piece

namespace EncodedField

def spelling : EncodedField s q → List Char
  | empty => []
  | bare first _ more => first :: Piece.spelling q more
  | quoted pieces => q :: (Piece.spelling q pieces ++ [q])

def value : EncodedField s q → List Char
  | empty => []
  | bare first _ more => first :: more.map (Piece.value q)
  | quoted pieces => pieces.map (Piece.value q)

theorem takes (distinct : s ≠ q) (before : List (List Char)) (field : EncodedField s q) :
    Takes ⟨s, some q⟩ ⟨before, [], false⟩ (field.spelling ++ [s]) ⟨before ++ [field.value], [], false⟩ := by
  cases field with
  | empty => exact takes_separator distinct before []
  | bare first ok more =>
    have start := takes_char (p := ⟨before, [], false⟩) ok.2 (.inl ok.1)
    have inside := Piece.takes_spelling (s := s) (p := ⟨before, [first], false⟩) (.inl (by simp))
      (fun c ok => ⟨ok.2, .inl ok.1⟩) more
    exact (start.trans inside).trans (takes_separator distinct before _)
  | quoted pieces =>
    have inside := Piece.takes_spelling (s := s) (p := ⟨before, [], true⟩) (.inr rfl)
      (fun c ok => ⟨ok, .inr rfl⟩) pieces
    have whole := ((takes_opening before).trans inside).trans (takes_closing distinct before _)
    simpa [spelling, value] using whole

/-- The text up to the next separator outside quotes is one field. -/
theorem spelling_unique (distinct : s ≠ q) {field field' : EncodedField s q} {rest rest' : List Char}
    (same : field.spelling ++ s :: rest = field'.spelling ++ s :: rest') :
    field = field' ∧ rest = rest' := by
  have endsBare : ∀ rest, Piece.Stops (fun c => c ≠ s ∧ c ≠ q) q (s :: rest) := fun rest =>
    ⟨by simp, fun ⟨_, more⟩ => distinct (List.cons.inj more).1.symm⟩
  have endsQuoted : ∀ rest, Piece.Stops (fun c => c ≠ q) q (q :: s :: rest) := fun rest =>
    ⟨by simp, fun ⟨_, more⟩ => distinct (List.cons.inj (List.cons.inj more).2).1.symm⟩
  cases field with
  | empty =>
    cases field' with
    | empty => exact ⟨rfl, (List.cons.inj same).2⟩
    | bare first ok more => exact absurd (List.cons.inj same).1.symm ok.1
    | quoted pieces => exact absurd (List.cons.inj same).1 distinct
  | bare first ok more =>
    cases field' with
    | empty => exact absurd (List.cons.inj same).1 ok.1
    | bare first' ok' more' =>
      obtain ⟨rfl, inside⟩ := List.cons.inj same
      obtain ⟨rfl, after⟩ := Piece.spelling_unique (by simp) (endsBare rest) (endsBare rest') inside
      exact ⟨rfl, (List.cons.inj after).2⟩
    | quoted pieces => exact absurd (List.cons.inj same).1 ok.2
  | quoted pieces =>
    cases field' with
    | empty => exact absurd (List.cons.inj same).1.symm distinct
    | bare first ok more => exact absurd (List.cons.inj same).1.symm ok.2
    | quoted pieces' =>
      have inside := (List.cons.inj same).2
      simp only [List.append_eq, List.append_assoc, List.singleton_append] at inside
      obtain ⟨rfl, after⟩ :=
        Piece.spelling_unique (by simp) (endsQuoted rest) (endsQuoted rest') inside
      exact ⟨rfl, (List.cons.inj (List.cons.inj after).2).2⟩

def terminated (fields : List (EncodedField s q)) : List Char :=
  fields.flatMap fun field => field.spelling ++ [s]

theorem takes_terminated (distinct : s ≠ q) (before : List (List Char))
    (fields : List (EncodedField s q)) :
    Takes ⟨s, some q⟩ ⟨before, [], false⟩ (terminated fields)
      ⟨before ++ fields.map value, [], false⟩ := by
  induction fields generalizing before with
  | nil =>
    rw [List.map_nil, List.append_nil]
    exact .nil _
  | cons field fields ih =>
    rw [List.map_cons, List.append_cons]
    exact (field.takes distinct before).trans (ih _)

theorem terminated_injective (distinct : s ≠ q) {fields fields' : List (EncodedField s q)}
    (same : terminated fields = terminated fields') : fields = fields' := by
  induction fields generalizing fields' with
  | nil =>
    cases fields' with
    | nil => rfl
    | cons field' fields' => simp [terminated] at same
  | cons field fields ih =>
    cases fields' with
    | nil => simp [terminated] at same
    | cons field' fields' =>
      simp only [terminated, List.flatMap_cons, List.append_assoc, List.singleton_append] at same
      obtain ⟨rfl, more⟩ := spelling_unique distinct same
      rw [ih more]

end EncodedField

open EncodedField

/-- The fields, in this order and with separators between them, are the line. -/
def IsReading (line : List Char) (fields : List (EncodedField s q)) : Prop :=
  fields ≠ [] ∧ [s].intercalate (fields.map spelling) = line

/-- Behind complete fields a quoted one is opened and not closed before the line ends. -/
def LeftOpen (s q : Char) (line : List Char) : Prop :=
  ∃ (complete : List (EncodedField s q)) (pieces : List (Piece fun c => c ≠ q)),
    line = terminated complete ++ q :: Piece.spelling q pieces

theorem IsReading.chunk_eq {line : List Char} {fields : List (EncodedField s q)}
    (reading : IsReading line fields) : chunk ⟨s, some q⟩ line = terminated fields := by
  obtain ⟨nonempty, rfl⟩ := reading
  unfold chunk
  induction fields with
  | nil => exact absurd rfl nonempty
  | cons field fields ih =>
    cases fields with
    | nil => simp [terminated]
    | cons next fields =>
      have rest := ih (List.cons_ne_nil _ _)
      simp only [List.map_cons, List.intercalate_cons_cons, List.append_assoc] at rest ⊢
      rw [rest]
      simp [terminated]

theorem IsReading.unique (distinct : s ≠ q) {line : List Char}
    {fields fields' : List (EncodedField s q)} (reading : IsReading line fields)
    (reading' : IsReading line fields') : fields = fields' :=
  terminated_injective distinct (reading.chunk_eq.symm.trans reading'.chunk_eq)

theorem IsReading.cons {line : List Char} {fields : List (EncodedField s q)}
    (reading : IsReading line fields) (field : EncodedField s q) :
    IsReading (field.spelling ++ s :: line) (field :: fields) := by
  obtain ⟨nonempty, rfl⟩ := reading
  obtain ⟨next, fields, rfl⟩ := List.exists_cons_of_ne_nil nonempty
  exact ⟨List.cons_ne_nil _ _, by simp [List.intercalate_cons_cons]⟩

/-- From the start of a field on, whatever came before it, the text has a fault. -/
def Faulty (s q : Char) (text : List Char) : Prop :=
  ∀ before position, ∃ misplaced,
    scan ⟨s, some q⟩ position ⟨before, [], false⟩ text = .error misplaced

theorem Faulty.of_takes {text rest : List Char} {p : List (List Char) → Progress}
    (takes : ∀ before, Takes ⟨s, some q⟩ ⟨before, [], false⟩ text (p before))
    (fault : ∀ before position, ∃ misplaced,
      scan ⟨s, some q⟩ position (p before) rest = .error misplaced) :
    Faulty s q (text ++ rest) := by
  intro before position
  rw [takes]
  exact fault before _

theorem scan_unexpected {p : Progress} {next : Char} (position : Nat) (rest : List Char)
    (started : p.value ≠ []) (bare : p.quoted = false) (single : next ≠ q) :
    scan ⟨s, some q⟩ position p (q :: next :: rest) = .error ⟨position, .unexpected q⟩ := by
  rw [scan.eq_def]
  simp [started, bare, single]

/-- A single quote inside quotes is misplaced in front of other characters than the separator. -/
theorem scan_expecting {p : Progress} {next : Char} (position : Nat) (rest : List Char)
    (quoted : p.quoted = true) (single : next ≠ q) (inside : next ≠ s) :
    scan ⟨s, some q⟩ position p (q :: next :: rest) = .error ⟨position + 1, .expecting s⟩ := by
  rw [scan.eq_def]
  simp [quoted, single, inside]

theorem faulty_of_bare {first next : Char} (ok : first ≠ s ∧ first ≠ q)
    (more : List (Piece fun c => c ≠ s ∧ c ≠ q)) (single : next ≠ q) (rest : List Char) :
    Faulty s q (first :: (Piece.spelling q more ++ q :: next :: rest)) := by
  have takes := fun before => (takes_char (p := ⟨before, [], false⟩) ok.2 (.inl ok.1)).trans
    (Piece.takes_spelling (s := s) (p := ⟨before, [first], false⟩) (.inl (by simp))
      (fun c ok => ⟨ok.2, .inl ok.1⟩) more)
  exact Faulty.of_takes takes fun before position =>
    ⟨_, scan_unexpected position rest (by simp) rfl single⟩

theorem faulty_of_quoted {next : Char} (pieces : List (Piece fun c => c ≠ q)) (single : next ≠ q)
    (inside : next ≠ s) (rest : List Char) :
    Faulty s q (q :: (Piece.spelling q pieces ++ q :: next :: rest)) := by
  have takes := fun before => (takes_opening before).trans
    (Piece.takes_spelling (s := s) (p := ⟨before, [], true⟩) (.inr rfl)
      (fun c ok => ⟨ok, .inr rfl⟩) pieces)
  exact Faulty.of_takes takes fun before position =>
    ⟨_, scan_expecting position rest rfl single inside⟩

/-- What a text starts with: a field and a separator, its last field, a quoted field that stays open, or a
fault. -/
theorem field_cases (distinct : s ≠ q) (text : List Char) :
    (∃ (field : EncodedField s q) (rest : List Char), text = field.spelling ++ s :: rest) ∨
    (∃ field : EncodedField s q, text = field.spelling) ∨
    (∃ pieces : List (Piece fun c => c ≠ q), text = q :: Piece.spelling q pieces) ∨
    Faulty s q (chunk ⟨s, some q⟩ text) := by
  unfold chunk
  match text with
  | [] => exact .inr (.inl ⟨.empty, rfl⟩)
  | c :: text =>
    by_cases opens : c = q
    · obtain ⟨pieces, rest, rfl, ends, single⟩ := Piece.exists_spelling (fun c => c ≠ q) q text
      subst opens
      rcases rest with _ | ⟨d, rest⟩
      · exact .inr (.inr (.inl ⟨pieces, by simp⟩))
      · obtain rfl : d = c := not_not.mp (ends d rfl)
        rcases rest with _ | ⟨e, rest⟩
        · exact .inr (.inl ⟨.quoted pieces, rfl⟩)
        · have notQuote : e ≠ d := fun same => single ⟨rest, by rw [same]; rfl⟩
          by_cases closed : e = s
          · exact .inl ⟨.quoted pieces, rest, by simp [spelling, closed]⟩
          · exact .inr (.inr (.inr (by simpa using faulty_of_quoted pieces notQuote closed (rest ++ [s]))))
    · by_cases empty : c = s
      · exact .inl ⟨.empty, text, by rw [empty]; rfl⟩
      · obtain ⟨more, rest, rfl, ends, single⟩ :=
          Piece.exists_spelling (fun c => c ≠ s ∧ c ≠ q) q text
        rcases rest with _ | ⟨d, rest⟩
        · exact .inr (.inl ⟨.bare c ⟨empty, opens⟩ more, by simp [spelling]⟩)
        · by_cases closed : d = s
          · exact .inl ⟨.bare c ⟨empty, opens⟩ more, rest, by simp [spelling, closed]⟩
          · obtain rfl : d = q := by simpa [closed] using ends d rfl
            -- The separator behind the line follows a quote that is its last character.
            obtain ⟨next, after, follows⟩ : ∃ next after, rest ++ [s] = next :: after :=
              List.exists_cons_of_ne_nil (by simp)
            have notQuote : next ≠ d := by
              rintro rfl
              cases rest with
              | nil => exact distinct (List.cons.inj follows).1
              | cons e rest => exact single ⟨rest, by rw [(List.cons.inj follows).1]; rfl⟩
            have fault := faulty_of_bare ⟨empty, opens⟩ more notQuote after
            rw [← follows] at fault
            exact .inr (.inr (.inr (by simpa using fault)))

theorem LeftOpen.cons {line : List Char} (leftOpen : LeftOpen s q line) (field : EncodedField s q) :
    LeftOpen s q (field.spelling ++ s :: line) := by
  obtain ⟨complete, pieces, rfl⟩ := leftOpen
  exact ⟨field :: complete, pieces, by simp [terminated]⟩

theorem line_cases (distinct : s ≠ q) (line : List Char) :
    (∃ fields : List (EncodedField s q), IsReading line fields) ∨ LeftOpen s q line ∨
      Faulty s q (chunk ⟨s, some q⟩ line) := by
  rcases field_cases distinct line with
    ⟨field, rest, starts⟩ | ⟨field, rfl⟩ | ⟨pieces, rfl⟩ | fault
  · have shorter : rest.length < line.length := by
      rw [starts, List.length_append, List.length_cons]
      omega
    subst starts
    rcases line_cases distinct rest with ⟨fields, reading⟩ | leftOpen | fault
    · exact .inl ⟨field :: fields, reading.cons field⟩
    · exact .inr (.inl (leftOpen.cons field))
    · have whole : chunk ⟨s, some q⟩ (field.spelling ++ s :: rest) =
          (field.spelling ++ [s]) ++ chunk ⟨s, some q⟩ rest := by simp [chunk]
      rw [whole]
      exact .inr (.inr (Faulty.of_takes (fun before => field.takes distinct before)
        fun before position => fault _ position))
  · exact .inl ⟨[field], List.cons_ne_nil _ _, by simp⟩
  · exact .inr (.inl ⟨[], pieces, rfl⟩)
  · exact .inr (.inr fault)
termination_by line.length

theorem scan_of_reading (distinct : s ≠ q) {line : List Char} {fields : List (EncodedField s q)}
    (reading : IsReading line fields) :
    scan ⟨s, some q⟩ 0 {} (chunk ⟨s, some q⟩ line) = .ok ⟨fields.map value, [], false⟩ := by
  have whole := takes_terminated distinct [] fields 0 []
  rw [List.append_nil] at whole
  rw [reading.chunk_eq]
  exact whole

/-- A line that ends inside quotes is taken up to its end, whatever comes after it. -/
theorem LeftOpen.takes (distinct : s ≠ q) {line : List Char} (leftOpen : LeftOpen s q line) :
    ∃ fields value, Takes ⟨s, some q⟩ {} line ⟨fields, value, true⟩ := by
  obtain ⟨complete, pieces, rfl⟩ := leftOpen
  have front := (takes_terminated distinct [] complete).trans (takes_opening _)
  have inside := Piece.takes_spelling (s := s) (q := q) (p := ⟨complete.map value, [], true⟩)
    (.inr rfl) (fun c ok => ⟨ok, .inr rfl⟩) pieces
  exact ⟨_, _, by simpa using front.trans inside⟩

/-- The separator behind a line that ends inside quotes is read into the open field. -/
theorem scan_of_leftOpen (distinct : s ≠ q) {line : List Char} (leftOpen : LeftOpen s q line) :
    ∃ p, scan ⟨s, some q⟩ 0 {} (chunk ⟨s, some q⟩ line) = .ok p ∧ p.quoted = true := by
  obtain ⟨fields, value, takes⟩ := leftOpen.takes distinct
  have separator := takes_char (s := s) (q := q) (p := ⟨fields, value, true⟩) distinct (.inr rfl)
  have whole := takes.trans separator 0 []
  rw [List.append_nil] at whole
  exact ⟨_, whole, rfl⟩

theorem tokenize_of_reading (distinct : s ≠ q) {line : String} {fields : List (EncodedField s q)}
    (reading : IsReading line.toList fields) :
    tokenize ⟨s, some q⟩ line false = .ok (fields.map fun field => String.ofList field.value) := by
  rw [tokenize, scan_of_reading distinct reading]
  simp [Progress.finish, Function.comp_def]

theorem tokenize_of_leftOpen (distinct : s ≠ q) {line : String} (leftOpen : LeftOpen s q line.toList) :
    tokenize ⟨s, some q⟩ line false = .error (.unterminatedQuote line) := by
  obtain ⟨p, scanned, quoted⟩ := scan_of_leftOpen distinct leftOpen
  rw [tokenize, scanned]
  simp [quoted]

theorem tokenize_of_faulty {line : String} (faulty : Faulty s q (chunk ⟨s, some q⟩ line.toList)) :
    ∃ position fault, tokenize ⟨s, some q⟩ line false = .error (.malformedQuote 1 position fault) := by
  obtain ⟨misplaced, scanned⟩ := faulty [] 0
  refine ⟨misplaced.position, misplaced.fault, ?_⟩
  rw [tokenize, show ({} : Progress) = ⟨[], [], false⟩ from rfl, scanned]
  rfl

theorem tokenize_cases (distinct : s ≠ q) (line : String) :
    (∃ fields : List (EncodedField s q), IsReading line.toList fields ∧
      tokenize ⟨s, some q⟩ line false = .ok (fields.map fun field => String.ofList field.value)) ∨
    (LeftOpen s q line.toList ∧
      tokenize ⟨s, some q⟩ line false = .error (.unterminatedQuote line)) ∨
    ∃ position fault,
      tokenize ⟨s, some q⟩ line false = .error (.malformedQuote 1 position fault) := by
  rcases line_cases distinct line.toList with ⟨fields, reading⟩ | leftOpen | faulty
  · exact .inl ⟨fields, reading, tokenize_of_reading distinct reading⟩
  · exact .inr (.inl ⟨leftOpen, tokenize_of_leftOpen distinct leftOpen⟩)
  · exact .inr (.inr (tokenize_of_faulty faulty))

theorem tokenize_trim (d : Delimiters) (line : String) :
    d.tokenize line true = (d.tokenize line false).map (·.map Text.trimmed) := by
  unfold tokenize
  cases d.scan 0 {} (d.chunk line.toList) with
  | error misplaced => rfl
  | ok p =>
    cases quoted : p.quoted with
    | true => simp [quoted, Except.map]
    | false => simp [quoted, Except.map, Progress.finish, Text.trimmed, Function.comp_def]

/-- A line is split exactly if it has a reading, and into the values of the fields of this one reading. It
has an unterminated quote exactly if a quoted field stays open, and a misplaced one otherwise. Trimming
changes the fields only. -/
theorem tokenize_grammar (distinct : s ≠ q) (line : String) :
    (∀ values, tokenize ⟨s, some q⟩ line false = .ok values ↔
      ∃ fields : List (EncodedField s q), IsReading line.toList fields ∧
        values = fields.map fun field => String.ofList field.value) ∧
    (∀ fields fields' : List (EncodedField s q), IsReading line.toList fields →
      IsReading line.toList fields' → fields = fields') ∧
    (∀ text, tokenize ⟨s, some q⟩ line false = .error (.unterminatedQuote text) ↔
      text = line ∧ LeftOpen s q line.toList) ∧
    ((∃ position fault,
        tokenize ⟨s, some q⟩ line false = .error (.malformedQuote 1 position fault)) ↔
      (¬ ∃ fields : List (EncodedField s q), IsReading line.toList fields) ∧
        ¬ LeftOpen s q line.toList) ∧
    tokenize ⟨s, some q⟩ line true =
      (tokenize ⟨s, some q⟩ line false).map (·.map Text.trimmed) := by
  refine ⟨?accepts, fun _ _ => IsReading.unique distinct, ?unterminated, ?malformed, tokenize_trim _ line⟩
  case accepts =>
    intro values
    constructor
    · intro split
      rcases tokenize_cases distinct line with
        ⟨fields, reading, outcome⟩ | ⟨-, outcome⟩ | ⟨position, fault, outcome⟩
      · exact ⟨fields, reading, Except.ok.inj (split.symm.trans outcome)⟩
      · cases split.symm.trans outcome
      · cases split.symm.trans outcome
    · rintro ⟨fields, reading, rfl⟩
      exact tokenize_of_reading distinct reading
  case unterminated =>
    intro text
    constructor
    · intro failed
      rcases tokenize_cases distinct line with
        ⟨fields, reading, outcome⟩ | ⟨leftOpen, outcome⟩ | ⟨position, fault, outcome⟩
      · cases failed.symm.trans outcome
      · cases failed.symm.trans outcome
        exact ⟨rfl, leftOpen⟩
      · cases failed.symm.trans outcome
    · rintro ⟨rfl, leftOpen⟩
      exact tokenize_of_leftOpen distinct leftOpen
  case malformed =>
    constructor
    · rintro ⟨position, fault, failed⟩
      refine ⟨?_, ?_⟩
      · rintro ⟨fields, reading⟩
        cases failed.symm.trans (tokenize_of_reading distinct reading)
      · intro leftOpen
        cases failed.symm.trans (tokenize_of_leftOpen distinct leftOpen)
    · rintro ⟨noReading, closed⟩
      rcases tokenize_cases distinct line with ⟨fields, reading, -⟩ | ⟨leftOpen, -⟩ | malformed
      · exact absurd ⟨fields, reading⟩ noReading
      · exact absurd leftOpen closed
      · exact malformed

theorem tokenize_grammar_of_quoted :
    ',' ≠ '"' ∧ tokenize ⟨',', some '"'⟩ "a,\"b\"\"c\"" false = .ok ["a", "b\"c"] := by
  have distinct : ',' ≠ '"' := by decide
  have accepts := (tokenize_grammar distinct "a,\"b\"\"c\"").1 ["a", "b\"c"]
  refine ⟨distinct, accepts.mpr ⟨[.bare 'a' (by decide) [], .quoted [.plain 'b' (by decide), .doubled,
    .plain 'c' (by decide)]], ⟨List.cons_ne_nil _ _, rfl⟩, rfl⟩⟩

end PlainTables.Delimiters
