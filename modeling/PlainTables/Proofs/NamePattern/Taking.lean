import PlainTables.NamePattern

/-!
# What patterns take

A pattern takes texts out of others. Whether it takes one may depend on the character before it and on the
text behind it, which assertions look at. Sequences, choices and repetitions take what is put together from
what their parts take.
-/

namespace PlainTables.NamePattern

/-- The character before what follows a text, which itself stands behind a character or at the start. -/
def behind (before : Option Char) (taken : List Char) : Option Char :=
  taken.getLast?.or before

theorem behind_append (before : Option Char) (first second : List Char) :
    behind before (first ++ second) = behind (behind before first) second := by
  rw [behind, behind, behind, List.getLast?_append, Option.or_assoc]

theorem behind_cons (before : Option Char) (c : Char) (taken : List Char) :
    behind before (c :: taken) = behind (some c) taken :=
  behind_append before [c] taken

theorem behind_none (taken : List Char) : behind none taken = taken.getLast? :=
  Option.or_none

/-- Which texts are taken behind a character, or at the start, and in front of another text. -/
abbrev Taking := Option Char → List Char → List Char → Prop

namespace Taking

variable {before : Option Char} {taken rest : List Char} (P Q R : Taking)

def nothing : Taking := fun _ taken _ => taken = []

def andThen : Taking := fun before taken rest =>
  ∃ first second, taken = first ++ second ∧ P before first (second ++ rest) ∧
    Q (behind before first) second rest

def either : Taking := fun before taken rest => P before taken rest ∨ Q before taken rest

def times : Nat → Taking
  | 0 => nothing
  | n + 1 => P.andThen (times n)

def upTo (most : Nat) : Taking := fun before taken rest => ∃ n ≤ most, P.times n before taken rest

def anyTimes : Taking := fun before taken rest => ∃ n, P.times n before taken rest

theorem nothing_andThen : nothing.andThen P = P := by
  funext before taken rest
  apply propext
  constructor
  · rintro ⟨first, second, rfl, rfl, takes⟩
    exact takes
  · intro takes
    exact ⟨[], taken, rfl, rfl, takes⟩

theorem andThen_nothing : P.andThen nothing = P := by
  funext before taken rest
  apply propext
  constructor
  · rintro ⟨first, second, rfl, takes, rfl⟩
    rw [List.append_nil]
    exact takes
  · intro takes
    exact ⟨taken, [], (List.append_nil taken).symm, takes, rfl⟩

theorem andThen_assoc : (P.andThen Q).andThen R = P.andThen (Q.andThen R) := by
  funext before taken rest
  apply propext
  constructor
  · rintro ⟨_, third, rfl, ⟨first, second, rfl, takesP, takesQ⟩, takesR⟩
    rw [← List.append_assoc] at takesP
    rw [behind_append] at takesR
    exact ⟨first, second ++ third, List.append_assoc .., takesP, second, third, rfl, takesQ, takesR⟩
  · rintro ⟨first, _, rfl, takesP, second, third, rfl, takesQ, takesR⟩
    rw [List.append_assoc] at takesP
    rw [← behind_append] at takesR
    exact ⟨first ++ second, third, (List.append_assoc ..).symm, ⟨first, second, rfl, takesP, takesQ⟩,
      takesR⟩

theorem times_add (m n : Nat) : P.times (m + n) = (P.times m).andThen (P.times n) := by
  induction m with
  | zero => rw [Nat.zero_add, times, nothing_andThen]
  | succ m ih => rw [Nat.succ_add, times, ih, times, andThen_assoc]

theorem upTo_zero : P.upTo 0 = nothing := by
  funext before taken rest
  apply propext
  constructor
  · rintro ⟨n, least, takes⟩
    obtain rfl := Nat.le_zero.mp least
    exact takes
  · intro takes
    exact ⟨0, Nat.le_refl 0, takes⟩

theorem upTo_succ (most : Nat) : P.upTo (most + 1) = (P.andThen (P.upTo most)).either nothing := by
  funext before taken rest
  apply propext
  constructor
  · rintro ⟨n, least, takes⟩
    cases n with
    | zero => exact .inr takes
    | succ n =>
      obtain ⟨first, second, rfl, takesFirst, takesRest⟩ := takes
      exact .inl ⟨first, second, rfl, takesFirst, n, Nat.le_of_succ_le_succ least, takesRest⟩
  · rintro (⟨first, second, rfl, takesFirst, n, least, takesRest⟩ | none)
    · exact ⟨n + 1, Nat.succ_le_succ least, first, second, rfl, takesFirst, takesRest⟩
    · exact ⟨0, Nat.zero_le _, none⟩

theorem anyTimes_eq : P.anyTimes = (P.andThen P.anyTimes).either nothing := by
  funext before taken rest
  apply propext
  constructor
  · rintro ⟨n, takes⟩
    cases n with
    | zero => exact .inr takes
    | succ n =>
      obtain ⟨first, second, rfl, takesFirst, takesRest⟩ := takes
      exact .inl ⟨first, second, rfl, takesFirst, n, takesRest⟩
  · rintro (⟨first, second, rfl, takesFirst, n, takesRest⟩ | none)
    · exact ⟨n + 1, first, second, rfl, takesFirst, takesRest⟩
    · exact ⟨0, none⟩

end Taking

/-- The texts that a pattern takes. A repetition takes its least number of parts, and then more of them as
far as it may. -/
def Takes : NamePattern → Taking
  | empty => .nothing
  | literal s => fun _ taken _ => taken = s
  | oneOf set => fun _ taken _ => ∃ c, taken = [c] ∧ set.contains c = true
  | look a => fun before taken rest => taken = [] ∧ a.holds before rest.head? = true
  | repetition p least (some most) _ => (p.Takes.times least).andThen (p.Takes.upTo (most - least))
  | repetition p least none _ => (p.Takes.times least).andThen p.Takes.anyTimes
  | group _ p => p.Takes
  | sequence p q => p.Takes.andThen q.Takes
  | choice p q => p.Takes.either q.Takes

theorem takes_literal_append (s t : List Char) :
    (literal (s ++ t)).Takes = (literal s).Takes.andThen (literal t).Takes := by
  funext before taken rest
  apply propext
  constructor
  · rintro rfl
    exact ⟨s, t, rfl, rfl, rfl⟩
  · rintro ⟨_, _, rfl, rfl, rfl⟩
    rfl

def takesAll : List NamePattern → Taking
  | [] => .nothing
  | p :: ps => p.Takes.andThen (takesAll ps)

theorem takesAll_append (ps qs : List NamePattern) :
    takesAll (ps ++ qs) = (takesAll ps).andThen (takesAll qs) := by
  induction ps with
  | nil => exact (Taking.nothing_andThen _).symm
  | cons p ps ih => rw [List.cons_append, takesAll, ih, takesAll, Taking.andThen_assoc]

theorem takes_ofParts (ps : List NamePattern) : (ofParts ps).Takes = takesAll ps := by
  induction ps with
  | nil => rfl
  | cons p ps ih =>
    cases ps with
    | nil => exact (Taking.andThen_nothing _).symm
    | cons q ps => exact congrArg p.Takes.andThen ih

theorem takesAll_parts (p : NamePattern) : takesAll p.parts = p.Takes := by
  induction p with
  | empty => rfl
  | sequence p q _ ih => rw [parts, takesAll, ih, Takes]
  | literal | oneOf | look | repetition | group | choice => exact Taking.andThen_nothing _

theorem takesAll_mergeLiterals (ps : List NamePattern) :
    takesAll (mergeLiterals ps) = takesAll ps := by
  induction ps with
  | nil => rfl
  | cons p ps ih =>
    cases p with
    | literal s =>
      rw [mergeLiterals, takesAll, ← ih]
      split
      · next t rest same =>
        rw [same, takesAll, takesAll, takes_literal_append, Taking.andThen_assoc]
      · rw [takesAll]
    | empty | oneOf | look | repetition | group | sequence | choice =>
      exact congrArg (Taking.andThen _) ih

theorem takes_inSequence (ps : List NamePattern) : (inSequence ps).Takes = takesAll ps := by
  rw [inSequence, takes_ofParts, takesAll_mergeLiterals]
  induction ps with
  | nil => rfl
  | cons p ps ih => rw [List.flatMap_cons, takesAll_append, takesAll_parts, ih, takesAll]

def OccursIn (p : NamePattern) (s : List Char) : Prop :=
  ∃ front taken rest, s = front ++ (taken ++ rest) ∧ p.Takes front.getLast? taken rest

end PlainTables.NamePattern
