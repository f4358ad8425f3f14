import Mathlib.Data.List.Forall2
import PlainTables.Evaluation.Condition
import PlainTables.Proofs.NamePattern.CharSet
import PlainTables.Proofs.NamePattern.Reading
import PlainTables.Proofs.NamePattern.Threads

/-!
# LIKE

A text is an instance of a pattern if it can be split into parts that the signs of the pattern stand for. The
regular expression for a pattern is read as a sequence with one part for every sign, between the two ends of the
text; no sign can break out of its part, since every character with a meaning of its own is escaped.
-/

namespace PlainTables

namespace Like

inductive StandsFor : Char → List Char → Prop
  | run (part : List Char) : StandsFor '%' part
  | one (c : Char) : StandsFor '_' [c]
  | itself {c : Char} : c ≠ '%' → c ≠ '_' → StandsFor c [c]

def SplitsAlong (pattern text : List Char) : Prop :=
  ∃ parts, List.Forall₂ StandsFor pattern parts ∧ text = parts.flatten

end Like

open NamePattern

theorem CharSet.contains_all (c : Char) : CharSet.nothing.complement.contains c = true :=
  CharSet.contains_complement ⟨.nil, nofun⟩ c

namespace Like

def signTokens (c : Char) : List Token :=
  if c = '%' then [.oneOf CharSet.nothing.complement 0, .repeated 0 none true]
  else if c = '_' then [.oneOf CharSet.nothing.complement 0]
  else [.literal c]

def signPart (c : Char) : Part :=
  if c = '%' then { pattern := .repetition (.oneOf CharSet.nothing.complement) 0 none true, height := 1 }
  else if c = '_' then { pattern := .oneOf CharSet.nothing.complement, height := 0 }
  else { pattern := .literal [c], height := 0 }

def tokens (pattern : List Char) : List Token :=
  [.flags, .look .textStart] ++ pattern.flatMap signTokens ++ [.look .textEnd]

def parts (pattern : List Char) : List Part :=
  [{ pattern := .empty, height := 0, canRepeat := false }, { pattern := .look .textStart, height := 0 }] ++
    pattern.map signPart ++ [{ pattern := .look .textEnd, height := 0 }]

theorem forall_mem_parts {P : Part → Prop}
    (flags : P { pattern := .empty, height := 0, canRepeat := false })
    (start : P { pattern := .look .textStart, height := 0 })
    (finish : P { pattern := .look .textEnd, height := 0 }) (sign : ∀ c, P (signPart c))
    (pattern : List Char) : ∀ p ∈ parts pattern, P p := by
  intro p hp
  simp only [parts, List.mem_append, List.mem_cons, List.mem_map, List.not_mem_nil, or_false] at hp
  obtain ((rfl | rfl) | ⟨c, _, rfl⟩) | rfl := hp
  · exact flags
  · exact start
  · exact sign c
  · exact finish

def expression (pattern : String) : NamePattern :=
  inSequence ((parts pattern.toList).map Part.pattern)

section

variable {rest : List Char} {ts : List Token}

theorem signText_toList (c : Char) :
    (signText c).toList =
      if c = '%' then ['.', '*']
      else if c = '_' then ['.']
      else if c ∈ signs then ['\\', c]
      else [c] := by
  rw [signText]
  split
  · rfl
  · split
    · rfl
    · exact escaped_singleton c

/-- No sign is taken for the question mark that turns round the repetition before it. -/
theorem head?_signText (c : Char) (rest : List Char) :
    ((signText c).toList ++ rest).head? ≠ some '?' := by
  rw [signText_toList]
  split
  · simp
  · split
    · simp
    · split
      · simp
      · next plain =>
        intro same
        obtain rfl : c = '?' := Option.some.inj same
        exact plain (by decide)

theorem reads_sign (c : Char) (later : Reads { pointIsAll := true } rest ts)
    (other : rest.head? ≠ some '?') :
    Reads { pointIsAll := true } ((signText c).toList ++ rest) (signTokens c ++ ts) := by
  rw [signText_toList, signTokens]
  split
  · have star := later.cons rfl (token_star _ other) trivial (Nat.lt_succ_self _)
    exact star.cons rfl (token_point _ rfl) trivial (Nat.lt_succ_self _)
  · split
    · exact later.cons rfl (token_point _ rfl) trivial (Nat.lt_succ_self _)
    · split
      · next sign =>
        have shorter : rest.length < rest.length + 2 := Nat.lt_add_of_pos_right Nat.two_pos
        exact later.cons rfl (token_escaped _ _ sign) trivial shorter
      · next plain => exact later.cons rfl (token_itself _ _ plain) trivial (Nat.lt_succ_self _)

theorem reads_signs (pattern : List Char) :
    Reads { pointIsAll := true } (pattern.flatMap (fun c => (signText c).toList) ++ ['$'])
      (pattern.flatMap signTokens ++ [.look .textEnd]) := by
  induction pattern with
  | nil => exact (reads_nil rfl).cons rfl (token_end []) trivial Nat.one_pos
  | cons c pattern ih =>
    rw [List.flatMap_cons, List.flatMap_cons, List.append_assoc, List.append_assoc]
    apply reads_sign c ih
    cases pattern with
    | nil => decide
    | cons d pattern =>
      rw [List.flatMap_cons, List.append_assoc]
      exact head?_signText d _

theorem expressionText_toList (pattern : String) :
    (expressionText pattern).toList =
      ['(', '?', 's', ')', '^'] ++ (pattern.toList.flatMap (fun c => (signText c).toList) ++ ['$']) := by
  rw [expressionText]
  have start : "(?s)^".toList = ['(', '?', 's', ')', '^'] := rfl
  rw [String.toList_append, String.toList_append, String.toList_join, List.flatMap_map, start,
    List.append_assoc]
  rfl

theorem tokens?_expressionText (pattern : String) :
    tokens? (expressionText pattern).toList = some (tokens pattern.toList) := by
  apply tokens?_of_reads
  rw [expressionText_toList]
  have start := (reads_signs pattern.toList).cons rfl (token_start _) trivial (Nat.lt_succ_self _)
  have flags := start.cons rfl (token_flags _) trivial (Nat.lt_add_of_pos_right (k := 4) (by decide))
  rw [tokens, List.append_assoc]
  exact flags

end

theorem add_sign (d : Draft) (c : Char) :
    (signTokens c).foldlM Draft.add? d = some (d.addParts [signPart c]) := by
  rw [signTokens, signPart]
  split
  · rfl
  · split
    · rfl
    · rfl

theorem add_signs (d : Draft) (pattern : List Char) :
    (pattern.flatMap signTokens).foldlM Draft.add? d = some (d.addParts (pattern.map signPart)) := by
  induction pattern generalizing d with
  | nil => rfl
  | cons c pattern ih =>
    rw [List.flatMap_cons, List.foldlM_append, add_sign]
    exact (ih _).trans (congrArg some (d.addParts_append [signPart c] (pattern.map signPart)).symm)

theorem add_tokens (pattern : List Char) :
    (tokens pattern).foldlM Draft.add? {} = some (({} : Draft).addParts (parts pattern)) := by
  have start : [Token.flags, .look .textStart].foldlM Draft.add? {} =
      some (({} : Draft).addParts
        [{ pattern := .empty, height := 0, canRepeat := false },
          { pattern := .look .textStart, height := 0 }]) := rfl
  rw [tokens, parts, Draft.addParts_append, Draft.addParts_append, List.foldlM_append,
    List.foldlM_append, start]
  simp only [bind, Option.bind, add_signs]
  rfl

theorem height_signPart (c : Char) : (signPart c).height ≤ 1 := by
  rw [signPart]
  split
  · exact Nat.le_refl 1
  · split
    · exact Nat.zero_le 1
    · exact Nat.zero_le 1

/-- The text is read as the sequence of its parts, if there is enough storage for it. -/
theorem parse?_expressionText (pattern : String) :
    parse? (expressionText pattern) =
      if (expression pattern).fitsStorage then some (expression pattern) else none := by
  rw [parse?, tokens?_expressionText]
  simp only [bind, Option.bind, add_tokens]
  apply Draft.pattern?_addParts
  · simp [parts]
  · apply forall_mem_parts
    · decide
    · decide
    · decide
    · intro c
      exact Nat.lt_of_le_of_lt (height_signPart c) (by decide)

/-- A pattern has the program of its expression, if there is enough storage for it. -/
theorem program_eq (pattern : String) :
    program pattern =
      if (expression pattern).fitsStorage then .ok (expression pattern).program
      else .error (.type (.patternTooLarge storageLimit)) := by
  rw [program, parse?_expressionText]
  cases (expression pattern).fitsStorage with
  | true => rfl
  | false => rfl

theorem storage_signPart_le (forwards : Bool) (c : Char) :
    (signPart c).pattern.storage forwards ≤ 1004 := by
  have any : (oneOf CharSet.nothing.complement).storage forwards ≤ 964 := by
    cases forwards with
    | true => decide +kernel
    | false => decide +kernel
  rw [signPart]
  split
  · exact Nat.add_le_add_right any 40
  · split
    · exact Nat.le_trans any (by decide)
    · have one : c.utf8Size ≤ 4 := c.utf8Size_le_four
      rw [storage, List.foldl_cons, List.foldl_nil]
      omega

/-- There is enough storage for every pattern of up to ten thousand characters. -/
theorem fitsStorage_of_length_le {pattern : String} (short : pattern.length ≤ 10000) :
    (expression pattern).fitsStorage = true := by
  have within (forwards : Bool) : (expression pattern).storage forwards ≤ 32 + 1004 * 10003 := by
    apply Nat.le_trans (storage_inSequence_le forwards _)
    apply Nat.add_le_add_left
    have each : ∀ p ∈ parts pattern.toList, p.pattern.storage forwards ≤ 1004 := by
      apply forall_mem_parts
      · exact (by decide : 32 ≤ 1004)
      · exact (by decide : 32 ≤ 1004)
      · exact (by decide : 32 ≤ 1004)
      · exact storage_signPart_le forwards
    have length : (parts pattern.toList).length ≤ 10003 := by
      rw [parts, List.length_append, List.length_append, List.length_map, String.length_toList]
      show 2 + pattern.length + 1 ≤ 10003
      omega
    apply Nat.le_trans (storageOf_le forwards (List.forall_mem_map.mpr each))
    rw [List.length_map]
    exact Nat.mul_le_mul_left 1004 length
  rw [fitsStorage, Bool.and_eq_true, decide_eq_true_eq, decide_eq_true_eq]
  constructor
  · exact Nat.le_trans (Nat.add_le_add_right (within true) 128) (by decide)
  · exact Nat.le_trans (Nat.add_le_add_right (within false) 64) (by decide)

section

variable {before : Option Char} {taken rest : List Char}

theorem takes_run : (signPart '%').pattern.Takes before taken rest := by
  have each : ∀ (before : Option Char) (taken : List Char),
      (oneOf CharSet.nothing.complement).Takes.times taken.length before taken rest := by
    intro before taken
    induction taken generalizing before with
    | nil => rfl
    | cons c taken ih =>
      exact ⟨[c], taken, rfl, ⟨c, rfl, CharSet.contains_all c⟩, ih _⟩
  exact ⟨[], taken, rfl, rfl, taken.length, each _ _⟩

theorem takes_sign {c : Char} : (signPart c).pattern.Takes before taken rest ↔ StandsFor c taken := by
  constructor
  · intro takes
    by_cases run : c = '%'
    · rw [run]
      exact .run taken
    · by_cases one : c = '_'
      · rw [one] at takes ⊢
        obtain ⟨d, rfl, _⟩ := takes
        exact .one d
      · rw [signPart, if_neg run, if_neg one] at takes
        obtain rfl : taken = [c] := takes
        exact .itself run one
  · intro stands
    cases stands with
    | run => exact takes_run
    | one d => exact ⟨d, rfl, CharSet.contains_all d⟩
    | itself run one =>
      rw [signPart, if_neg run, if_neg one]
      rfl

theorem takes_signs (pattern : List Char) :
    takesAll ((pattern.map signPart).map Part.pattern) before taken rest ↔ SplitsAlong pattern taken := by
  induction pattern generalizing before taken with
  | nil =>
    constructor
    · rintro rfl
      exact ⟨[], .nil, rfl⟩
    · rintro ⟨_, ⟨⟩, rfl⟩
      rfl
  | cons c pattern ih =>
    constructor
    · rintro ⟨first, second, rfl, takes, later⟩
      obtain ⟨parts, each, rfl⟩ := ih.mp later
      exact ⟨first :: parts, .cons (takes_sign.mp takes) each, rfl⟩
    · rintro ⟨_, each, rfl⟩
      cases each with
      | cons stands each =>
        exact ⟨_, _, rfl, takes_sign.mpr stands, ih.mpr ⟨_, each, rfl⟩⟩

theorem takes_start :
    takesAll [.empty, .look .textStart] before taken rest ↔ before = none ∧ taken = [] := by
  constructor
  · rintro ⟨_, _, rfl, rfl, _, _, rfl, ⟨rfl, holds⟩, rfl⟩
    exact ⟨Option.isNone_iff_eq_none.mp holds, rfl⟩
  · rintro ⟨rfl, rfl⟩
    exact ⟨[], [], rfl, rfl, [], [], rfl, ⟨rfl, rfl⟩, rfl⟩

theorem takes_end : takesAll [.look .textEnd] before taken rest ↔ taken = [] ∧ rest = [] := by
  constructor
  · rintro ⟨_, _, rfl, ⟨rfl, holds⟩, rfl⟩
    exact ⟨rfl, List.head?_eq_none_iff.mp (Option.isNone_iff_eq_none.mp holds)⟩
  · rintro ⟨rfl, rfl⟩
    exact ⟨[], [], rfl, ⟨rfl, rfl⟩, rfl⟩

theorem takes_expression (pattern : String) :
    (expression pattern).Takes before taken rest ↔
      before = none ∧ SplitsAlong pattern.toList taken ∧ rest = [] := by
  rw [expression, takes_inSequence, parts, List.map_append, List.map_append, takesAll_append,
    takesAll_append]
  constructor
  · rintro ⟨_, _, rfl, ⟨_, text, rfl, start, signs⟩, ends⟩
    obtain ⟨first, rfl⟩ := takes_start.mp start
    obtain ⟨rfl, last⟩ := takes_end.mp ends
    rw [List.nil_append, List.append_nil]
    exact ⟨first, (takes_signs pattern.toList).mp signs, last⟩
  · rintro ⟨first, splits, last⟩
    have start : takesAll [.empty, .look .textStart] before [] (taken ++ rest) :=
      takes_start.mpr ⟨first, rfl⟩
    have signs : takesAll ((pattern.toList.map signPart).map Part.pattern) before taken rest :=
      (takes_signs pattern.toList).mpr splits
    refine ⟨taken, [], (List.append_nil taken).symm, ⟨[], taken, rfl, ?_, signs⟩, ?_⟩
    · exact start
    · exact takes_end.mpr ⟨rfl, last⟩

end

theorem occursIn_expression (pattern : String) (s : List Char) :
    (expression pattern).OccursIn s ↔ SplitsAlong pattern.toList s := by
  constructor
  · rintro ⟨front, taken, rest, rfl, takes⟩
    obtain ⟨start, splits, rfl⟩ := (takes_expression pattern).mp takes
    obtain rfl := List.getLast?_eq_none_iff.mp start
    rw [List.append_nil]
    exact splits
  · intro splits
    exact ⟨[], s, [], (List.append_nil s).symm, (takes_expression pattern).mpr ⟨rfl, splits, rfl⟩⟩

/-- The program of a pattern finds out whether a text can be split along the pattern. -/
theorem captures?_expression (pattern s : String) :
    ((expression pattern).program.captures? s).isSome = true ↔ SplitsAlong pattern.toList s.toList := by
  rw [← occursIn_expression]
  exact captures?_isSome (expression pattern) s

end Like

end PlainTables
