import PlainTables.Proofs.Spacing.Statement
import PlainTables.Proofs.Statement.Operand
import PlainTables.Proofs.Statement.Stopping

/-!
# Where a statement is wrong

The error for a text that is no statement names the byte where it cannot go on. The text is trimmed before it is
read and the semicolons at its end are dropped, but the byte is counted in the text as it was given.
-/

namespace PlainTables

open Lexis Reader
open Text (isBlank)

/-! ## Expressions behind spaces -/

namespace Grammar

theorem term_dropWhile_isSpace (depth : Nat) (s : List Char) :
    term (depth + 1) (s.dropWhile isSpace) = term (depth + 1) s := by
  have spaces : Reader.spaces (s.dropWhile isSpace) = Reader.spaces s := by
    rw [Reader.spaces, List.dropWhile_idempotent, Reader.spaces]
  exact bind_congr_left spaces

theorem same_alike {α : Type} (p : Reader α) : Reader.Alike Eq (fun _ => Eq) p p := by
  rintro s _ rfl
  cases p s with
  | ok result => exact .ok rfl
  | error stop =>
    cases stop with
    | miss rest => exact .miss
    | fatal rest => exact .fatal

/-- Depths above the length of a text make no difference, as every parenthesis shortens the text. -/
theorem term_same (n n' : Nat) : Reader.Alike (Below n n' Eq) (fun _ => Eq) (term n) (term n') := by
  induction n generalizing n' with
  | zero =>
    rintro s s' ⟨-, short, -⟩
    exact absurd short (Nat.not_lt_zero _)
  | succ n ih =>
    cases n' with
    | zero =>
      rintro s s' ⟨-, -, short⟩
      exact absurd short (Nat.not_lt_zero _)
    | succ n' =>
      have leaf {α : Type} (p : Reader α) : Reader.Alike (Below (n + 1) (n' + 1) Eq) (fun _ => Eq) p p :=
        (same_alike p).of_imp fun _ _ related => related.1
      refine Spacing.spaced_alike ((same_alike spaces).below takes_spaces takes_spaces _ _) ?_
        fun _ => same_alike spaces
      refine (leaf _).orElse <| (leaf _).orElse <| Reader.Alike.orElse ?_ (leaf _)
      refine ((same_alike (char '(')).below_succ (Spacing.takes_char_nonempty _)
        (Spacing.takes_char_nonempty _) n n').bind fun _ => ?_
      refine (Spacing.sumOf_alike (same_alike _) (ih n') (takes_term n) (takes_term n')).bind fun e => ?_
      exact (same_alike (char ')')).bind fun _ => .pure e

theorem expression_dropWhile_isSpace {s r : List Char} {e : Expression}
    (read : expression s = .ok (e, r)) : expression (s.dropWhile isSpace) = .ok (e, r) := by
  have behind : (s.dropWhile isSpace).length ≤ s.length := (List.dropWhile_suffix _).length_le
  have start : sumOf (term (s.length + 1)) (s.dropWhile isSpace) = .ok (e, r) := by
    rw [← read]
    exact bind_congr_left (term_dropWhile_isSpace s.length s)
  have same := Spacing.sumOf_alike (same_alike _)
    (term_same (s.length + 1) ((s.dropWhile isSpace).length + 1)) (takes_term _) (takes_term _)
    (s.dropWhile isSpace) (s.dropWhile isSpace) ⟨rfl, Nat.lt_succ_of_le behind, Nat.lt_succ_self _⟩
  rw [start] at same
  generalize outcome : sumOf (term ((s.dropWhile isSpace).length + 1)) (s.dropWhile isSpace) = x at same
  cases same with
  | ok left =>
    cases left
    exact outcome

theorem other_of_blank {c : Char} (blank : isBlank c) :
    c ≠ '\'' ∧ c ≠ '"' ∧ c ≠ '-' ∧ c ≠ '(' ∧ c.toUpper ∉ ['C', 'S', 'A', 'M', 'N'] := by
  have each : blankPoints.all fun n =>
      decide (Char.ofNat n ≠ '\'' ∧ Char.ofNat n ≠ '"' ∧ Char.ofNat n ≠ '-' ∧ Char.ofNat n ≠ '(' ∧
        (Char.ofNat n).toUpper ∉ ['C', 'S', 'A', 'M', 'N']) := by decide
  have this := List.all_eq_true.mp each c.toNat (mem_blankPoints blank)
  rw [Char.ofNat_toNat] at this
  exact of_decide_eq_true this

theorem term_misses_blank {c : Char} (blank : isBlank c) (noSpace : isSpace c = false)
    (s : List Char) (depth : Nat) : Misses (term depth) (c :: s) := by
  cases depth with
  | zero => exact ⟨_, rfl⟩
  | succ depth =>
    have start : spaces (c :: s) = .ok ((), c :: s) := by
      rw [spaces, List.dropWhile_cons_of_neg (by simp [noSpace])]
    obtain ⟨noText, noName, noMinus, noOpening, noLetter⟩ := other_of_blank blank
    have noCall : c.toUpper ∉ ['C', 'S', 'A', 'M'] := fun mem =>
      noLetter (List.mem_append_left ['N'] mem)
    have noNull : Misses (keyword "NULL") (c :: s) := by
      refine Misses.bind (tag_misses_of_head ?_ (by decide))
      intro same
      exact noLetter (Option.some.inj same ▸ by decide)
    have outside {accepts : Char → Bool} (printing : Printing accepts) : accepts c = false := by
      cases accepted : accepts c with
      | false => rfl
      | true => exact absurd (printing c accepted) (by simp [blank])
    have noDigit : c.isDigit = false := outside Spacing.printing_isDigit
    have noWord : Misses word (c :: s) := by
      refine word_misses_of_stops ?_
      rintro _ ⟨⟩
      exact outside fun d letter => printing_isWordChar d (Spacing.isWordChar_of_letter letter)
    have noColumn : Misses columnRef (c :: s) :=
      Misses.bind (Misses.orElse (quoted_misses (by simpa using noName)) noWord.bind)
    refine Misses.bind_of_ok start (Misses.bind ?_)
    refine (aggregate_misses noCall).orElse ?_
    refine Misses.orElse (literal_misses noText noMinus noDigit noNull).bind ?_
    exact Misses.orElse (char_misses (by simpa using noOpening)).bind noColumn

theorem expression_misses_blank {c : Char} (blank : isBlank c) (noSpace : isSpace c = false)
    (s : List Char) : Misses expression (c :: s) := by
  have misses : Misses (sumOf (term ((c :: s).length + 1))) (c :: s) :=
    (term_misses_blank blank noSpace s _).bind
  obtain ⟨stop, missed⟩ := misses
  exact ⟨stop, by rw [expression, missed]⟩

theorem trimLeft_of_expression {s r : List Char} {e : Expression} (read : expression s = .ok (e, r)) :
    Text.trimLeft s = s.dropWhile isSpace := by
  have spaces : ∀ c ∈ s.takeWhile isSpace, isBlank c := fun c mem =>
    isBlank_of_isSpace (List.mem_takeWhile_imp mem)
  have passed : Text.trimLeft s = Text.trimLeft (s.dropWhile isSpace) := by
    conv_lhs => rw [← List.takeWhile_append_dropWhile (p := isSpace) (l := s)]
    exact List.dropWhile_append_of_pos spaces
  have behind := expression_dropWhile_isSpace read
  rw [passed]
  refine Text.dropWhile_of_head? fun c first => ?_
  cases blank : isBlank c with
  | false => rfl
  | true =>
    obtain ⟨t, rest⟩ := List.head?_eq_some_iff.mp first
    have noSpace : isSpace c = false := Spacing.stops_dropWhile isSpace s c first
    obtain ⟨stop, misses⟩ := expression_misses_blank blank noSpace t
    rw [rest, misses] at behind
    cases behind

theorem NamelessSum.trimLeft {s : List Char} (sum : NamelessSum s) : NamelessSum (Text.trimLeft s) := by
  obtain ⟨left, right, behind, rest, read, noName⟩ := sum
  rw [trimLeft_of_expression read]
  exact ⟨left, right, behind, rest, expression_dropWhile_isSpace read, noName⟩

end Grammar

/-! ## Bytes -/

theorem Text.byteSize_append (s t : List Char) : byteSize (s ++ t) = byteSize s + byteSize t := by
  induction s with
  | nil => exact (Nat.zero_add _).symm
  | cons c s ih => rw [List.cons_append, byteSize, ih, byteSize, Nat.add_assoc]

theorem Text.byteSize_eq (s : List Char) : byteSize s = (String.ofList s).utf8ByteSize := by
  induction s with
  | nil => rfl
  | cons c s ih =>
    rw [byteSize, ih, String.ofList_cons, String.utf8ByteSize_append, String.utf8ByteSize_singleton]

namespace Statement

/-- The text behind an error: an end of the statement without its leading blanks, and the blanks and semicolons
behind the statement. -/
theorem exists_position {sql rest : List Char} (behind : rest <:+ body sql) :
    ∃ front ending, sql = front ++ (Text.trimLeft rest ++ ending) ∧
      Text.byteSize front = positionOf sql rest ∧ ∀ c ∈ ending, isBlank c ∨ c = ';' := by
  obtain ⟨semicolons, gap, parts, isSemicolon, blank⟩ := trimLeft_eq_body_append sql
  obtain ⟨read, whole⟩ := behind
  have lead : sql = sql.takeWhile isBlank ++ Text.trimLeft sql := List.takeWhile_append_dropWhile.symm
  have inner : rest = rest.takeWhile isBlank ++ Text.trimLeft rest :=
    List.takeWhile_append_dropWhile.symm
  refine ⟨sql.takeWhile isBlank ++ (read ++ rest.takeWhile isBlank), semicolons ++ gap, ?_, ?_, ?_⟩
  · calc sql = sql.takeWhile isBlank ++ (read ++ rest ++ semicolons ++ gap) := by
          rw [whole, ← parts, ← lead]
      _ = _ := by
          conv_lhs => rw [inner]
          simp only [List.append_assoc]
  · have size := congrArg Text.byteSize lead
    have size' := congrArg Text.byteSize inner
    rw [Text.byteSize_append] at size size'
    rw [positionOf, ← whole, Text.byteSize_append, Text.byteSize_append, Text.byteSize_append]
    omega
  · intro c mem
    rcases List.mem_append.mp mem with semicolon | trailing
    · exact .inr (isSemicolon c semicolon)
    · exact .inl (blank c trailing)

end Statement

/-- What stands at the byte that an error names. -/
def StatementFault.StartsAt : StatementFault → List Char → Prop
  | .unexpected word, back =>
    word ≠ "" ∧ (∀ c ∈ word.toList, isBlank c = false) ∧ word.toList <+: back
  | .unsupportedOperator operator, back => back.head? = some operator
  | .endOfInput, back => ∀ c ∈ back, isBlank c ∨ c = ';'
  | .missingAlias, back =>
    ∃ column ending, back = column ++ ending ∧ (∀ c ∈ ending, isBlank c ∨ c = ';') ∧
      Grammar.NamelessSum column

theorem StatementFault.ofRest_startsAt (rest : List Char) {ending : List Char}
    (ends : ∀ c ∈ ending, isBlank c ∨ c = ';') :
    (ofRest rest).StartsAt (Text.trimLeft rest ++ ending) := by
  have first : Stops isBlank (Text.trimLeft rest) := Spacing.stops_dropWhile isBlank rest
  unfold ofRest
  generalize Text.trimLeft rest = back at first
  cases back with
  | nil => exact ends
  | cons c r =>
    have printing : isBlank c = false := first c rfl
    dsimp only
    split
    · rfl
    · refine ⟨?_, ?_, ?_⟩
      · have start : (c :: r).takeWhile (fun c => !isBlank c) = c :: r.takeWhile fun c => !isBlank c :=
          List.takeWhile_cons_of_pos (by simp [printing])
        rw [start]
        exact fun empty => List.cons_ne_nil _ _ (String.ofList_eq_empty_iff.mp empty)
      · intro d mem
        rw [String.toList_ofList] at mem
        simpa using List.mem_takeWhile_imp mem
      · rw [String.toList_ofList]
        exact (List.takeWhile_prefix _).trans (List.prefix_append _ _)

namespace Statement

/-- An error in the text of a statement names a byte at which a character of this text starts or the text ends,
and there the text goes on with what the error is about. -/
theorem parse_points_at_fault {sql : String} {position : Nat} {fault : StatementFault}
    (failed : parse sql = .error (.statement position fault)) :
    position ≤ sql.utf8ByteSize ∧
      ∃ front back : String, sql = front ++ back ∧ front.utf8ByteSize = position ∧
        fault.StartsAt back.toList := by
  have ends := Grammar.stays_statement (body sql.toList)
  unfold parse at failed
  dsimp only at failed
  -- Wherever reading has stopped, its rest is found in the text.
  suffices found : ∃ front back, sql.toList = front ++ back ∧ Text.byteSize front = position ∧
      fault.StartsAt back by
    obtain ⟨front, back, parts, size, starts⟩ := found
    have whole : sql = String.ofList front ++ String.ofList back := by
      rw [← String.ofList_append, ← parts, String.ofList_toList]
    rw [Text.byteSize_eq] at size
    refine ⟨?_, _, _, whole, size, ?_⟩
    · rw [whole, String.utf8ByteSize_append, size]
      exact Nat.le_add_right _ _
    · rwa [String.toList_ofList]
  generalize Grammar.statement (body sql.toList) = result at ends failed
  cases ends with
  | ok behind =>
    dsimp only at failed
    split at failed
    · cases failed
    · cases failed
      obtain ⟨front, ending, parts, size, only⟩ := exists_position behind
      exact ⟨front, _, parts, size, StatementFault.ofRest_startsAt _ only⟩
  | miss behind =>
    cases failed
    obtain ⟨front, ending, parts, size, only⟩ := exists_position behind
    exact ⟨front, _, parts, size, StatementFault.ofRest_startsAt _ only⟩
  | fatal behind sum =>
    cases failed
    obtain ⟨front, ending, parts, size, only⟩ := exists_position behind
    exact ⟨front, _, parts, size, _, ending, rfl, only, sum.trimLeft⟩

/-- A word too many and a sum without a name, behind characters of two bytes. -/
theorem parse_points_behind_accents :
    (parse "\u00a0SELECT é b c" = .error (.statement 14 (.unexpected "c")) ∧
      ∃ front back : String, "\u00a0SELECT é b c" = front ++ back ∧ front.utf8ByteSize = 14 ∧
        StatementFault.StartsAt (.unexpected "c") back.toList) ∧
    (parse "\u00a0SELECT é, a+b ;; " = .error (.statement 13 .missingAlias) ∧
      ∃ front back : String, "\u00a0SELECT é, a+b ;; " = front ++ back ∧ front.utf8ByteSize = 13 ∧
        StatementFault.StartsAt .missingAlias back.toList) := by
  have word : parse "\u00a0SELECT é b c" = .error (.statement 14 (.unexpected "c")) := by
    decide +kernel
  have sum : parse "\u00a0SELECT é, a+b ;; " = .error (.statement 13 .missingAlias) := by
    decide +kernel
  exact ⟨⟨word, (parse_points_at_fault word).2⟩, ⟨sum, (parse_points_at_fault sum).2⟩⟩

end Statement

end PlainTables
