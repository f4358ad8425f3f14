import PlainTables.NamePattern.Parse

/-!
# Patterns that are read

A text is read sign by sign. Signs that open or close no group leave the groups around them alone, so that
what is read of them follows from what is read of each. The sequence of their parts takes no more storage than
the parts do one by one, but for a step that takes nothing.
-/

namespace PlainTables.NamePattern

def Token.IsFlat : Token → Prop
  | .opening _ | .closing => False
  | .literal _ | .oneOf .. | .look _ | .flags | .bar | .repeated .. => True

/-- With these flags the text is read as these tokens, whatever has been read before. -/
def Reads (f : Flags) (s : List Char) (tokens : List Token) : Prop :=
  ∀ fuel outer read, s.length < fuel →
    tokensFrom fuel f outer read s = some (read ++ tokens.toArray)

section

variable {f g : Flags} {s rest : List Char} {t : Token} {tokens : List Token}

theorem reads_nil (plain : f.spaced = false) : Reads f [] [] := by
  intro fuel outer read enough
  obtain ⟨n, rfl⟩ := Nat.exists_eq_add_of_lt enough
  simp [tokensFrom, plain]

theorem Reads.cons (later : Reads g rest tokens) (plain : f.spaced = false)
    (first : token f s = some ((t, g), rest)) (flat : t.IsFlat) (shorter : rest.length < s.length) :
    Reads f s (t :: tokens) := by
  intro fuel outer read enough
  cases fuel with
  | zero => exact absurd enough (Nat.not_lt_zero _)
  | succ n =>
    have left : tokensFrom n g outer (read.push t) rest = some (read.push t ++ tokens.toArray) :=
      later n outer (read.push t) (by omega)
    rw [tokensFrom]
    simp only [plain, Bool.false_eq_true, if_false]
    cases s with
    | nil => exact absurd shorter (Nat.not_lt_zero _)
    | cons c s =>
      simp only [first]
      cases t with
      | opening => exact flat.elim
      | closing => exact flat.elim
      | literal | oneOf | look | flags | bar | repeated => simpa using left

theorem tokens?_of_reads (reads : Reads {} s tokens) : tokens? s = some tokens := by
  rw [tokens?, reads _ _ _ (Nat.lt_succ_self _)]
  simp

end

/-- The characters that are escaped, as some of them have a meaning of their own. -/
def signs : List Char :=
  ['\\', '.', '+', '*', '?', '(', ')', '|', '[', ']', '\x7b', '\x7d', '^', '$', '#', '&', '-', '~']

theorem escaped_singleton (c : Char) :
    (escaped (String.singleton c)).toList = if c ∈ signs then ['\\', c] else [c] := by
  have same : "\\.+*?()|[]\x7b\x7d^$#&-~".toList = signs := rfl
  rw [escaped, same]
  simp

theorem token_itself {c : Char} (f : Flags) (rest : List Char) (plain : c ∉ signs) :
    token f (c :: rest) = some ((single f c, f), rest) := by
  -- with these in the context every case of `token` but the last is out of the question
  simp only [signs, List.mem_cons, List.not_mem_nil, or_false, not_or] at plain
  obtain ⟨h1, h2, h3, h4, h5, h6, h7, h8, h9, h10, h11, h12, h13, h14, h15, h16, h17, h18⟩ := plain
  simp only [token, TokenReader.take, bind, StateT.bind, Option.bind_some]
  rfl

theorem token_escaped {c : Char} (f : Flags) (rest : List Char) (sign : c ∈ signs) :
    token f ('\\' :: c :: rest) = some ((single f c, f), rest) := by
  simp only [signs, List.mem_cons, List.not_mem_nil, or_false] at sign
  obtain ⟨ignoreCase, multiLine, pointIsAll, lazy, spaced, returns, latin⟩ := f
  -- no sign is the letter of a class, neither of all characters nor of basic Latin
  obtain rfl | rfl | rfl | rfl | rfl | rfl | rfl | rfl | rfl | rfl | rfl | rfl | rfl | rfl | rfl | rfl |
    rfl | rfl := sign
  all_goals cases latin <;> rfl

theorem token_point {f : Flags} {set : CharSet} (rest : List Char) (covers : point f = some set) :
    token f ('.' :: rest) = some ((.oneOf set 0, f), rest) := by
  simp only [token, TokenReader.take, bind, StateT.bind, Option.bind_some, covers]
  rfl

theorem skipText_other {t : String} {rest : List Char} (other : ¬ t.toList <+: rest) :
    TokenReader.skipText t rest = some (false, rest) := by
  simp only [TokenReader.skipText, bind, StateT.bind, get, getThe, MonadStateOf.get, StateT.get,
    Option.pure_def, Option.bind_some, List.isPrefixOf_iff_prefix, if_neg other]
  rfl

theorem quantifier_other (f : Flags) (least : Nat) (most : Option Nat) {rest : List Char}
    (other : rest.head? ≠ some '?') :
    quantifier f least most rest = some (.repeated least most (!f.lazy), rest) := by
  have none : ¬ "?".toList <+: rest := by
    rintro ⟨later, rfl⟩
    exact other rfl
  simp only [quantifier, bind, StateT.bind, skipText_other none, Option.bind_some, Bool.false_beq]
  rfl

theorem token_star (f : Flags) {rest : List Char} (other : rest.head? ≠ some '?') :
    token f ('*' :: rest) = some ((.repeated 0 none (!f.lazy), f), rest) := by
  have same : token f ('*' :: rest) =
      (quantifier f 0 none rest).bind fun (t, later) => some ((t, f), later) := rfl
  rw [same, quantifier_other f 0 none other]
  rfl

theorem token_start (rest : List Char) :
    token { pointIsAll := true } ('^' :: rest) = some ((.look .textStart, { pointIsAll := true }), rest) :=
  rfl

theorem token_end (rest : List Char) :
    token { pointIsAll := true } ('$' :: rest) = some ((.look .textEnd, { pointIsAll := true }), rest) :=
  rfl

/-- From here on a point stands for the end of a line, too. -/
theorem token_flags (rest : List Char) :
    token {} ('(' :: '?' :: 's' :: ')' :: rest) = some ((.flags, { pointIsAll := true }), rest) :=
  rfl

def Draft.addParts (d : Draft) (ps : List Part) : Draft :=
  { d with current := { d.current with parts := ps.reverse ++ d.current.parts } }

theorem Draft.addParts_append (d : Draft) (ps qs : List Part) :
    d.addParts (ps ++ qs) = (d.addParts ps).addParts qs := by
  simp [addParts]

theorem heightAround_le {ps : List Part} {n : Nat} (low : ∀ p ∈ ps, p.height ≤ n) :
    heightAround ps ≤ n + 1 := by
  have highest : ∀ h ≤ n, ps.foldl (fun h p => max h p.height) h ≤ n := by
    induction ps with
    | nil => exact fun _ le => le
    | cons p ps ih =>
      intro h le
      apply ih
      · intro q hq
        exact low q (List.mem_cons_of_mem p hq)
      · exact Nat.max_le.mpr ⟨le, low p List.mem_cons_self⟩
  exact Nat.succ_le_succ (highest 0 (Nat.zero_le n))

theorem OpenGroup.branch_of_several {g : OpenGroup} (several : 2 ≤ g.parts.length) :
    g.branch =
      { pattern := inSequence (g.parts.reverse.map Part.pattern), height := heightAround g.parts } := by
  rw [branch]
  split
  · next none => simp [none] at several
  · next one => simp [one] at several
  · rfl

theorem Draft.pattern?_addParts {ps : List Part} (several : 2 ≤ ps.length)
    (low : ∀ p ∈ ps, p.height < nestingLimit) :
    (({} : Draft).addParts ps).pattern? =
      let p := inSequence (ps.map Part.pattern)
      if p.fitsStorage then some p else none := by
  have whole : (({} : Draft).addParts ps).current.all =
      { pattern := inSequence (ps.map Part.pattern), height := heightAround ps.reverse } := by
    rw [OpenGroup.all, addParts, List.append_nil, OpenGroup.branch_of_several (by simpa using several),
      List.reverse_reverse]
  have shallow : heightAround ps.reverse ≤ nestingLimit := by
    apply heightAround_le (n := nestingLimit - 1)
    intro p hp
    exact Nat.le_pred_of_lt (low p (List.mem_reverse.mp hp))
  rw [pattern?, whole]
  simp [addParts, shallow]

section

variable (forwards : Bool)

def storageOf : List NamePattern → Nat
  | [] => 0
  | p :: ps => p.storage forwards + storageOf ps

theorem storageOf_append (ps qs : List NamePattern) :
    storageOf forwards (ps ++ qs) = storageOf forwards ps + storageOf forwards qs := by
  induction ps with
  | nil => rw [List.nil_append, storageOf, Nat.zero_add]
  | cons p ps ih => rw [List.cons_append, storageOf, ih, storageOf, Nat.add_assoc]

theorem storageOf_le {most : Nat} {ps : List NamePattern} (each : ∀ p ∈ ps, p.storage forwards ≤ most) :
    storageOf forwards ps ≤ most * ps.length := by
  induction ps with
  | nil => exact Nat.le_refl 0
  | cons p ps ih =>
    have first : p.storage forwards ≤ most := each p List.mem_cons_self
    have rest := ih fun q hq => each q (List.mem_cons_of_mem p hq)
    rw [storageOf, List.length_cons, Nat.mul_succ]
    omega

theorem storage_ofParts_le (ps : List NamePattern) :
    (ofParts ps).storage forwards ≤ 32 + storageOf forwards ps := by
  induction ps with
  | nil => exact Nat.le_refl 32
  | cons p ps ih =>
    cases ps with
    | nil =>
      rw [ofParts, storageOf, storageOf]
      omega
    | cons q ps =>
      rw [ofParts, storage, storageOf]
      omega

theorem storage_literal_append (s t : List Char) :
    (literal (s ++ t)).storage forwards =
      (literal s).storage forwards + (literal t).storage forwards := by
  have shift (n : Nat) :
      t.foldl (fun n c => n + c.utf8Size) n = n + t.foldl (fun n c => n + c.utf8Size) 0 := by
    induction t generalizing n with
    | nil => rfl
    | cons c t ih =>
      rw [List.foldl_cons, List.foldl_cons, ih, ih (0 + c.utf8Size)]
      omega
  rw [storage, storage, storage, List.foldl_append, shift, Nat.mul_add]

theorem storageOf_mergeLiterals (ps : List NamePattern) :
    storageOf forwards (mergeLiterals ps) = storageOf forwards ps := by
  induction ps with
  | nil => rfl
  | cons p ps ih =>
    cases p with
    | literal s =>
      rw [mergeLiterals, storageOf, ← ih]
      split
      · next t rest same =>
        rw [same, storageOf, storageOf, storage_literal_append, Nat.add_assoc]
      · rw [storageOf]
    | empty | oneOf | look | repetition | group | sequence | choice =>
      exact congrArg (_ + ·) ih

theorem storageOf_parts_le (p : NamePattern) :
    storageOf forwards p.parts ≤ p.storage forwards := by
  induction p with
  | empty => exact Nat.zero_le 32
  | sequence p q _ ih => exact Nat.add_le_add_left ih _
  | literal | oneOf | look | repetition | group | choice => exact Nat.le_of_eq (Nat.add_zero _)

/-- Bringing a sequence into its simple form takes no further storage. -/
theorem storage_inSequence_le (ps : List NamePattern) :
    (inSequence ps).storage forwards ≤ 32 + storageOf forwards ps := by
  apply Nat.le_trans (storage_ofParts_le forwards _)
  rw [storageOf_mergeLiterals]
  apply Nat.add_le_add_left
  induction ps with
  | nil => exact Nat.le_refl 0
  | cons p ps ih =>
    rw [List.flatMap_cons, storageOf_append, storageOf]
    exact Nat.add_le_add (storageOf_parts_le forwards p) ih

end

end PlainTables.NamePattern
