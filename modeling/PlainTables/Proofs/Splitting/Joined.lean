import PlainTables.Lines.FileSet
import PlainTables.Proofs.Splitting.Grammar

/-!
# Records over several lines

A record that goes on over several lines is split as one line that joins them. It ends with the first of
them that does not leave a quote open, and the lines below are left.
-/

namespace PlainTables

namespace LineSource

variable {ρ : Type} [LineSource ρ]

/-- Going on in the file of the last line gives these lines and leaves this source. -/
inductive GoesOn : ρ → List String → ρ → Prop
  | done (r : ρ) : GoesOn r [] r
  | line {r s t : ρ} {next : String} {lines : List String} :
      readContinuation r = (.ok (some next), s) → GoesOn s lines t → GoesOn r (next :: lines) t

def FailsWithoutQuotes (ρ : Type) [LineSource ρ] : Prop :=
  ∀ (r s : ρ) (e : QueryError), readContinuation r = (.error e, s) → e.isQuoteError = false

end LineSource

theorem ByteLines.failsWithoutQuotes : LineSource.FailsWithoutQuotes ByteLines := by
  rintro ⟨stream, k⟩ s e failed
  rcases stream with _ | _ | (_ | ⟨b, bytes⟩) <;> cases failed <;> rfl

theorem ByteLines.lineNumber_of_readLine {r r' : ByteLines} {line : String}
    (reading : LineSource.readLine r = (.ok (some line), r')) :
    LineSource.lineNumber r' = LineSource.lineNumber r + 1 := by
  obtain ⟨stream, k⟩ := r
  rcases stream with _ | _ | (_ | ⟨b, bytes⟩) <;> cases reading
  rfl

theorem FileSetLines.failsWithoutQuotes : LineSource.FailsWithoutQuotes FileSetLines := by
  intro r s e failed
  change r.readContinuation = (.error e, s) at failed
  unfold readContinuation at failed
  split at failed
  · cases failed
    rfl
  · split at failed
    · cases failed
    · rename_i file _
      obtain ⟨failed, -⟩ := Prod.mk.inj failed
      exact ByteLines.failsWithoutQuotes file _ e (Prod.ext failed rfl)

namespace Delimiters

open LineSource (GoesOn FailsWithoutQuotes)

/-- A line and those that a record goes on over as one text. -/
def joined (line : String) (lines : List String) : String :=
  "\n".intercalate (line :: lines)

theorem joined_nil (line : String) : joined line [] = line :=
  String.intercalate_singleton

theorem joined_cons (line next : String) (lines : List String) :
    joined line (next :: lines) = joined (line ++ "\n" ++ next) lines := by
  rw [joined, joined, String.intercalate_cons_cons, String.intercalate_cons_append]

def EndsQuoted (d : Delimiters) (trim : Bool) (text : String) : Prop :=
  d.tokenize text trim = .error (.unterminatedQuote text)

instance (d : Delimiters) (trim : Bool) : DecidablePred (d.EndsQuoted trim) :=
  fun text => inferInstanceAs (Decidable (d.tokenize text trim = .error (.unterminatedQuote text)))

variable {ρ : Type} [LineSource ρ]

/-- The record that starts with a line is what the joined lines are without any line after them, for as
few lines as close its quotes. The error for a quote that stays open names the first line alone. -/
structure SplitsAsJoined (d : Delimiters) (line : String) (trim : Bool) (r : ρ) : Prop where
  fields : ∀ fields s, d.tokenizeRecord line r trim = (.ok fields, s) ↔
    ∃ lines, GoesOn r lines s ∧
      (∀ k < lines.length, d.EndsQuoted trim (joined line (lines.take k))) ∧
      d.tokenize (joined line lines) trim = .ok fields
  misplaced : ∀ number position fault s,
    d.tokenizeRecord line r trim = (.error (.malformedQuote number position fault), s) ↔
      number = max 1 (LineSource.lineNumber r) ∧
      ∃ lines, GoesOn r lines s ∧
        (∀ k < lines.length, d.EndsQuoted trim (joined line (lines.take k))) ∧
        d.tokenize (joined line lines) trim = .error (.malformedQuote 1 position fault)
  unterminated : ∀ text s, d.tokenizeRecord line r trim = (.error (.unterminatedQuote text), s) ↔
    text = line ∧ ∃ lines t, GoesOn r lines t ∧ LineSource.readContinuation t = (.ok none, s) ∧
      ∀ k ≤ lines.length, d.EndsQuoted trim (joined line (lines.take k))

/-- The record of which this text has been read, and which goes on if a quote is open. -/
def recordAfter (d : Delimiters) (line : String) (number : Nat) (trim : Bool) (fuel : Nat)
    (text : String) (r : ρ) : Reading ρ (List String) :=
  match d.scan 0 {} (d.chunk text.toList) with
  | .error m => (.error (m.toError number), r)
  | .ok p =>
    if p.quoted then d.continueRecord line number trim fuel text.length p r
    else (.ok (p.finish trim), r)

theorem tokenizeRecord_eq_recordAfter (d : Delimiters) (line : String) (r : ρ) (trim : Bool) :
    d.tokenizeRecord line r trim =
      d.recordAfter line (max 1 (LineSource.lineNumber r)) trim (LineSource.remaining r + 1) line r :=
  rfl

variable {d : Delimiters} {line text next : String} {number fuel : Nat} {trim : Bool} {r t u : ρ}
  {lines : List String}

theorem recordAfter_of_closed (closed : ¬ d.EndsQuoted trim text) :
    (∃ fields, d.tokenize text trim = .ok fields ∧
      d.recordAfter line number trim fuel text r = (.ok fields, r)) ∨
    ∃ position fault, d.tokenize text trim = .error (.malformedQuote 1 position fault) ∧
      d.recordAfter line number trim fuel text r =
        (.error (.malformedQuote number position fault), r) := by
  unfold EndsQuoted at closed
  unfold tokenize at closed ⊢
  unfold recordAfter
  cases scanned : d.scan 0 {} (d.chunk text.toList) with
  | error m => exact .inr ⟨m.position, m.fault, rfl, rfl⟩
  | ok p =>
    simp only [scanned] at closed
    cases quoted : p.quoted with
    | true => simp [quoted] at closed
    | false => exact .inl ⟨p.finish trim, by simp [quoted]⟩

variable {s q : Char}

theorem endsQuoted_iff (distinct : s ≠ q) :
    EndsQuoted ⟨s, some q⟩ trim text ↔ LeftOpen s q text.toList := by
  have untrimmed : EndsQuoted ⟨s, some q⟩ trim text ↔ EndsQuoted ⟨s, some q⟩ false text := by
    cases trim with
    | false => exact Iff.rfl
    | true =>
      unfold EndsQuoted
      rw [tokenize_trim]
      cases tokenize ⟨s, some q⟩ text false <;> simp [Except.map]
  rw [untrimmed, EndsQuoted]
  constructor
  · intro endsQuoted
    rcases tokenize_cases distinct text with ⟨_, _, outcome⟩ | ⟨leftOpen, _⟩ | ⟨_, _, outcome⟩
    · cases endsQuoted.symm.trans outcome
    · exact leftOpen
    · cases endsQuoted.symm.trans outcome
  · exact tokenize_of_leftOpen distinct

theorem recordAfter_of_line (distinct : s ≠ q) (endsQuoted : EndsQuoted ⟨s, some q⟩ trim text)
    (reading : LineSource.readContinuation r = (.ok (some next), t)) :
    recordAfter ⟨s, some q⟩ line number trim (fuel + 1) text r =
      recordAfter ⟨s, some q⟩ line number trim fuel (text ++ "\n" ++ next) t := by
  obtain ⟨fields, value, takes⟩ := ((endsQuoted_iff distinct).mp endsQuoted).takes distinct
  have separator := takes_char (s := s) (q := q) (p := ⟨fields, value, true⟩) distinct (.inr rfl)
  have first := takes.trans separator 0 []
  rw [List.append_nil] at first
  have goesOn := takes 0 (chunk ⟨s, some q⟩ ('\n' :: next.toList))
  rw [Nat.zero_add] at goesOn
  have whole : chunk ⟨s, some q⟩ (text ++ "\n" ++ next).toList =
      text.toList ++ chunk ⟨s, some q⟩ ('\n' :: next.toList) := by
    simp [chunk]
  have length : (text ++ "\n" ++ next).length = text.toList.length + ('\n' :: next.toList).length := by
    rw [← String.length_toList, String.toList_append, String.toList_append, List.append_assoc,
      List.length_append]
    rfl
  rw [recordAfter, recordAfter, whole, goesOn, chunk, first, length, ← String.length_toList]
  cases below : scan ⟨s, some q⟩ text.toList.length ⟨fields, value, true⟩
    (chunk ⟨s, some q⟩ ('\n' :: next.toList)) with
  | error m => simp only [scan, if_true, continueRecord, reading, List.dropLast_concat, below]
  | ok p => simp only [scan, if_true, continueRecord, reading, List.dropLast_concat, below]

theorem recordAfter_of_goesOn (line : String) (number : Nat) (distinct : s ≠ q)
    (goesOn : GoesOn r lines t)
    (endsQuoted : ∀ k < lines.length, EndsQuoted ⟨s, some q⟩ trim (joined text (lines.take k)))
    (enough : LineSource.remaining r < fuel) :
    ∃ fuel', LineSource.remaining t < fuel' ∧
      recordAfter ⟨s, some q⟩ line number trim fuel text r =
        recordAfter ⟨s, some q⟩ line number trim fuel' (joined text lines) t := by
  induction goesOn generalizing text fuel with
  | done r => exact ⟨fuel, enough, by rw [joined_nil]⟩
  | @line r r' t next lines reading _ ih =>
    have fewer := LineSource.remaining_readContinuation r next (congrArg Prod.fst reading)
    rw [reading] at fewer
    obtain ⟨fuel, rfl⟩ := Nat.exists_eq_add_one_of_ne_zero (Nat.ne_zero_of_lt enough)
    have first := endsQuoted 0 (Nat.zero_lt_succ _)
    rw [List.take_zero, joined_nil] at first
    have below : ∀ k < lines.length,
        EndsQuoted ⟨s, some q⟩ trim (joined (text ++ "\n" ++ next) (lines.take k)) := by
      intro k inside
      have whole := endsQuoted (k + 1) (Nat.succ_lt_succ inside)
      rwa [List.take_succ_cons, joined_cons] at whole
    obtain ⟨fuel', enough', same⟩ := ih below (Nat.lt_of_lt_of_le fewer (Nat.le_of_lt_succ enough))
    exact ⟨fuel', enough', by rw [recordAfter_of_line distinct first reading, same, joined_cons]⟩

theorem recordAfter_of_end (distinct : s ≠ q) (endsQuoted : EndsQuoted ⟨s, some q⟩ trim text)
    (reading : LineSource.readContinuation r = (.ok none, t)) :
    recordAfter ⟨s, some q⟩ line number trim (fuel + 1) text r =
      (.error (.unterminatedQuote line), t) := by
  obtain ⟨p, scanned, quoted⟩ := scan_of_leftOpen distinct ((endsQuoted_iff distinct).mp endsQuoted)
  simp only [recordAfter, scanned, quoted, if_true, continueRecord, reading]

theorem recordAfter_of_error (distinct : s ≠ q) (endsQuoted : EndsQuoted ⟨s, some q⟩ trim text)
    {e : QueryError} (reading : LineSource.readContinuation r = (.error e, t)) :
    recordAfter ⟨s, some q⟩ line number trim (fuel + 1) text r = (.error e, t) := by
  obtain ⟨p, scanned, quoted⟩ := scan_of_leftOpen distinct ((endsQuoted_iff distinct).mp endsQuoted)
  simp only [recordAfter, scanned, quoted, if_true, continueRecord, reading]

/-- A text goes on over lines until one of them closes its quotes or there is no other line. -/
theorem exists_goesOn (d : Delimiters) (trim : Bool) (text : String) (r : ρ) :
    ∃ lines t, GoesOn r lines t ∧
      (∀ k < lines.length, d.EndsQuoted trim (joined text (lines.take k))) ∧
      (d.EndsQuoted trim (joined text lines) →
        ∀ next u, LineSource.readContinuation t ≠ (.ok (some next), u)) := by
  induction remaining : LineSource.remaining r using Nat.strongRecOn generalizing text r with
  | _ n ih =>
    by_cases goesOn : d.EndsQuoted trim text ∧
        ∃ next u, LineSource.readContinuation r = (.ok (some next), u)
    · obtain ⟨endsQuoted, next, u, reading⟩ := goesOn
      have fewer := LineSource.remaining_readContinuation r next (congrArg Prod.fst reading)
      rw [reading, remaining] at fewer
      obtain ⟨lines, t, goesOn, below, last⟩ := ih _ fewer (text ++ "\n" ++ next) u rfl
      refine ⟨next :: lines, t, .line reading goesOn, fun k inside => ?_, by rwa [joined_cons]⟩
      cases k with
      | zero => rwa [List.take_zero, joined_nil]
      | succ k =>
        rw [List.take_succ_cons, joined_cons]
        exact below k (Nat.lt_of_succ_lt_succ inside)
    · refine ⟨[], r, .done r, by simp, ?_⟩
      rw [joined_nil]
      exact fun endsQuoted next u reading => goesOn ⟨endsQuoted, next, u, reading⟩

/-- The record on lines of which only the last one closes its quotes is that of the joined lines. -/
theorem tokenizeRecord_of_closed (distinct : s ≠ q) (goesOn : GoesOn r lines t)
    (endsQuoted : ∀ k < lines.length, EndsQuoted ⟨s, some q⟩ trim (joined line (lines.take k)))
    (closed : ¬ EndsQuoted ⟨s, some q⟩ trim (joined line lines)) :
    (∃ fields, tokenize ⟨s, some q⟩ (joined line lines) trim = .ok fields ∧
      tokenizeRecord ⟨s, some q⟩ line r trim = (.ok fields, t)) ∨
    ∃ position fault,
      tokenize ⟨s, some q⟩ (joined line lines) trim = .error (.malformedQuote 1 position fault) ∧
      tokenizeRecord ⟨s, some q⟩ line r trim =
        (.error (.malformedQuote (max 1 (LineSource.lineNumber r)) position fault), t) := by
  obtain ⟨fuel, _, same⟩ := recordAfter_of_goesOn line (max 1 (LineSource.lineNumber r)) distinct
    goesOn endsQuoted (Nat.lt_succ_self _)
  rw [tokenizeRecord_eq_recordAfter, same]
  exact recordAfter_of_closed closed

theorem tokenizeRecord_of_open (distinct : s ≠ q) (goesOn : GoesOn r lines t)
    (endsQuoted : ∀ k ≤ lines.length, EndsQuoted ⟨s, some q⟩ trim (joined line (lines.take k))) :
    (∀ u, LineSource.readContinuation t = (.ok none, u) →
      tokenizeRecord ⟨s, some q⟩ line r trim = (.error (.unterminatedQuote line), u)) ∧
    ∀ e u, LineSource.readContinuation t = (.error e, u) →
      tokenizeRecord ⟨s, some q⟩ line r trim = (.error e, u) := by
  obtain ⟨fuel, enough, same⟩ := recordAfter_of_goesOn line (max 1 (LineSource.lineNumber r))
    distinct goesOn (fun k inside => endsQuoted k (Nat.le_of_lt inside)) (Nat.lt_succ_self _)
  obtain ⟨fuel, rfl⟩ := Nat.exists_eq_add_one_of_ne_zero (Nat.ne_zero_of_lt enough)
  have whole := endsQuoted lines.length (Nat.le_refl _)
  rw [List.take_length] at whole
  rw [tokenizeRecord_eq_recordAfter, same]
  exact ⟨fun u => recordAfter_of_end distinct whole, fun e u => recordAfter_of_error distinct whole⟩

/-- What becomes of a record: it is split or misplaced when its quotes are closed, or its lines run out or
cannot be read. -/
inductive RecordCases (d : Delimiters) (line : String) (trim : Bool) (r : ρ) : Prop
  | fields {lines : List String} {t : ρ} {fields : List String} : GoesOn r lines t →
      (∀ k < lines.length, d.EndsQuoted trim (joined line (lines.take k))) →
      d.tokenize (joined line lines) trim = .ok fields →
      d.tokenizeRecord line r trim = (.ok fields, t) → RecordCases d line trim r
  | misplaced {lines : List String} {t : ρ} {position : Nat} {fault : QuoteFault} : GoesOn r lines t →
      (∀ k < lines.length, d.EndsQuoted trim (joined line (lines.take k))) →
      d.tokenize (joined line lines) trim = .error (.malformedQuote 1 position fault) →
      d.tokenizeRecord line r trim =
        (.error (.malformedQuote (max 1 (LineSource.lineNumber r)) position fault), t) →
      RecordCases d line trim r
  | unterminated {lines : List String} {t u : ρ} : GoesOn r lines t →
      (∀ k ≤ lines.length, d.EndsQuoted trim (joined line (lines.take k))) →
      LineSource.readContinuation t = (.ok none, u) →
      d.tokenizeRecord line r trim = (.error (.unterminatedQuote line), u) → RecordCases d line trim r
  | failed {t u : ρ} {e : QueryError} : LineSource.readContinuation t = (.error e, u) →
      d.tokenizeRecord line r trim = (.error e, u) → RecordCases d line trim r

theorem tokenizeRecord_cases (distinct : s ≠ q) (line : String) (trim : Bool) (r : ρ) :
    RecordCases ⟨s, some q⟩ line trim r := by
  obtain ⟨lines, t, goesOn, endsQuoted, last⟩ := exists_goesOn ⟨s, some q⟩ trim line r
  by_cases whole : EndsQuoted ⟨s, some q⟩ trim (joined line lines)
  · have always : ∀ k ≤ lines.length, EndsQuoted ⟨s, some q⟩ trim (joined line (lines.take k)) := by
      intro k inside
      rcases Nat.lt_or_eq_of_le inside with before | rfl
      · exact endsQuoted k before
      · rwa [List.take_length]
    obtain ⟨atEnd, atError⟩ := tokenizeRecord_of_open distinct goesOn always
    rcases reading : LineSource.readContinuation t with ⟨e | _ | next, u⟩
    · exact .failed reading (atError e u reading)
    · exact .unterminated goesOn always reading (atEnd u reading)
    · exact absurd reading (last whole next u)
  · rcases tokenizeRecord_of_closed distinct goesOn endsQuoted whole with
      ⟨fields, split, outcome⟩ | ⟨position, fault, split, outcome⟩
    · exact .fields goesOn endsQuoted split outcome
    · exact .misplaced goesOn endsQuoted split outcome

theorem splitsAsJoined (distinct : s ≠ q) (faults : FailsWithoutQuotes ρ) (line : String)
    (trim : Bool) (r : ρ) : SplitsAsJoined ⟨s, some q⟩ line trim r where
  fields := by
    intro fields t
    constructor
    · intro split
      cases tokenizeRecord_cases distinct line trim r with
      | fields goesOn endsQuoted whole outcome =>
        cases split.symm.trans outcome
        exact ⟨_, goesOn, endsQuoted, whole⟩
      | misplaced _ _ _ outcome => cases split.symm.trans outcome
      | unterminated _ _ _ outcome => cases split.symm.trans outcome
      | failed _ outcome => cases split.symm.trans outcome
    · rintro ⟨lines, goesOn, endsQuoted, whole⟩
      have closed : ¬ EndsQuoted ⟨s, some q⟩ trim (joined line lines) := fun atEnd => by
        cases whole.symm.trans atEnd
      rcases tokenizeRecord_of_closed distinct goesOn endsQuoted closed with
        ⟨fields', whole', outcome⟩ | ⟨_, _, whole', _⟩
      · cases whole.symm.trans whole'
        exact outcome
      · cases whole.symm.trans whole'
  misplaced := by
    intro number position fault t
    constructor
    · intro split
      cases tokenizeRecord_cases distinct line trim r with
      | fields _ _ _ outcome => cases split.symm.trans outcome
      | misplaced goesOn endsQuoted whole outcome =>
        cases split.symm.trans outcome
        exact ⟨rfl, _, goesOn, endsQuoted, whole⟩
      | unterminated _ _ _ outcome => cases split.symm.trans outcome
      | failed failed outcome =>
        cases split.symm.trans outcome
        cases faults _ _ _ failed
    · rintro ⟨rfl, lines, goesOn, endsQuoted, whole⟩
      have closed : ¬ EndsQuoted ⟨s, some q⟩ trim (joined line lines) := fun atEnd => by
        cases whole.symm.trans atEnd
      rcases tokenizeRecord_of_closed distinct goesOn endsQuoted closed with
        ⟨_, whole', _⟩ | ⟨position', fault', whole', outcome⟩
      · cases whole.symm.trans whole'
      · cases whole.symm.trans whole'
        exact outcome
  unterminated := by
    intro text t
    constructor
    · intro split
      cases tokenizeRecord_cases distinct line trim r with
      | fields _ _ _ outcome => cases split.symm.trans outcome
      | misplaced _ _ _ outcome => cases split.symm.trans outcome
      | unterminated goesOn endsQuoted atEnd outcome =>
        cases split.symm.trans outcome
        exact ⟨rfl, _, _, goesOn, atEnd, endsQuoted⟩
      | failed failed outcome =>
        cases split.symm.trans outcome
        cases faults _ _ _ failed
    · rintro ⟨rfl, lines, u, goesOn, atEnd, endsQuoted⟩
      exact (tokenizeRecord_of_open distinct goesOn endsQuoted).1 t atEnd

/-- A record that goes on over lines of a stream or of a file in a set is the record of the lines that
are joined by newlines, with the number of its first line in errors. -/
theorem tokenizeRecord_joined (distinct : s ≠ q) (line : String) (trim : Bool) :
    (∀ r : ByteLines, SplitsAsJoined ⟨s, some q⟩ line trim r) ∧
    (∀ r : FileSetLines, SplitsAsJoined ⟨s, some q⟩ line trim r) ∧
    ∀ r r' : ByteLines, LineSource.readLine r = (.ok (some line), r') →
      max 1 (LineSource.lineNumber r') = LineSource.lineNumber r + 1 := by
  refine ⟨splitsAsJoined distinct ByteLines.failsWithoutQuotes line trim,
    splitsAsJoined distinct FileSetLines.failsWithoutQuotes line trim, ?_⟩
  intro r r' reading
  rw [r.lineNumber_of_readLine reading]
  exact Nat.max_eq_right (Nat.succ_le_succ (Nat.zero_le _))

/-- A quote in the second line is misplaced in the record that starts with the second line of a text. -/
theorem tokenizeRecord_joined_of_misplaced :
    ',' ≠ '"' ∧ tokenizeRecord ⟨',', some '"'⟩ "1,\"first"
        (⟨.bytes (Utf8.encode "sec\"x,y\n3".toList), 2⟩ : ByteLines) false =
      (.error (.malformedQuote 2 13 (.expecting ',')), ⟨.bytes (Utf8.encode "3".toList), 3⟩) := by
  have distinct : ',' ≠ '"' := by decide
  have splits := (tokenizeRecord_joined distinct "1,\"first" false).1
    ⟨.bytes (Utf8.encode "sec\"x,y\n3".toList), 2⟩
  have goesOn : GoesOn (⟨.bytes (Utf8.encode "sec\"x,y\n3".toList), 2⟩ : ByteLines) ["sec\"x,y"]
      ⟨.bytes (Utf8.encode "3".toList), 3⟩ := .line (by decide +kernel) (.done _)
  exact ⟨distinct, (splits.misplaced 2 13 _ _).mpr
    ⟨by decide, _, goesOn, by decide +kernel, by decide +kernel⟩⟩

end Delimiters

end PlainTables
