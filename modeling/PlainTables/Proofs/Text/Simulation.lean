import PlainTables.Proofs.Text.Taking

/-!
# Readers of texts that are alike

Two readers can be followed side by side on two texts that are related. They take the same, or stop in the same
way, and what they leave is related again.
-/

namespace PlainTables.Reader

variable {α β : Type}

abbrev TextRel := List Char → List Char → Prop

/-- Both readings took the same, or both ended without a result. -/
inductive SameResult (Q : α → TextRel) :
    Except Stop (α × List Char) → Except Stop (α × List Char) → Prop
  | ok {a : α} {r r' : List Char} : Q a r r' → SameResult Q (.ok (a, r)) (.ok (a, r'))
  | miss {r r' : List Char} : SameResult Q (.error (.miss r)) (.error (.miss r'))
  | fatal {r r' : List Char} : SameResult Q (.error (.fatal r)) (.error (.fatal r'))

def Alike (P : TextRel) (Q : α → TextRel) (p p' : Reader α) : Prop :=
  ∀ s s', P s s' → SameResult Q (p s) (p' s')

theorem SameResult.mono {Q Q' : α → TextRel} {x x' : Except Stop (α × List Char)}
    (same : SameResult Q x x') (wider : ∀ a r r', Q a r r' → Q' a r r') : SameResult Q' x x' := by
  cases same with
  | ok related => exact .ok (wider _ _ _ related)
  | miss => exact .miss
  | fatal => exact .fatal

theorem SameResult.of_misses {Q : α → TextRel} {p p' : Reader α} {s s' : List Char}
    (misses : Misses p s) (misses' : Misses p' s') : SameResult Q (p s) (p' s') := by
  obtain ⟨rest, missed⟩ := misses
  obtain ⟨rest', missed'⟩ := misses'
  rw [missed, missed']
  exact .miss

namespace Alike

variable {P P' R R' : TextRel} {Q Q' : α → TextRel} {p p' q q' : Reader α}

theorem mono (alike : Alike P Q p p') (narrower : ∀ s s', P' s s' → P s s')
    (wider : ∀ a s s', Q a s s' → Q' a s s') : Alike P' Q' p p' :=
  fun s s' related => (alike s s' (narrower s s' related)).mono wider

theorem of_imp (alike : Alike P Q p p') (narrower : ∀ s s', P' s s' → P s s') : Alike P' Q p p' :=
  alike.mono narrower fun _ _ _ => id

theorem imp (alike : Alike P Q p p') (wider : ∀ a s s', Q a s s' → Q' a s s') : Alike P Q' p p' :=
  alike.mono (fun _ _ => id) wider

theorem pure (a : α) : Alike P (fun _ => P) (pure a) (pure a) :=
  fun _ _ related => .ok related

theorem bind {S : β → TextRel} {f f' : α → Reader β} (first : Alike P Q p p')
    (rest : ∀ a, Alike (Q a) S (f a) (f' a)) : Alike P S (p >>= f) (p' >>= f') := by
  intro s s' related
  have same := first s s' related
  simp only [Bind.bind, StateT.bind]
  generalize p s = x at same
  generalize p' s' = x' at same
  cases same with
  | ok left => exact rest _ _ _ left
  | miss => exact .miss
  | fatal => exact .fatal

theorem map {f : α → β} (alike : Alike P (fun _ => R) p p') :
    Alike P (fun _ => R) (do return f (← p)) (do return f (← p')) :=
  alike.bind fun a => pure (f a)

theorem orElse (first : Alike P Q p p') (second : Alike P Q q q') :
    Alike P Q (orElse p q) (orElse p' q') := by
  intro s s' related
  have same := first s s' related
  unfold Reader.orElse
  generalize p s = x at same
  generalize p' s' = x' at same
  cases same with
  | ok left => exact .ok left
  | miss => exact second s s' related
  | fatal => exact .fatal

theorem optional (alike : Alike P (fun _ => R) p p') (stays : ∀ s s', P s s' → R s s') :
    Alike P (fun _ => R) (optional p) (optional p') := by
  intro s s' related
  have same := alike s s' related
  unfold Reader.optional
  generalize p s = x at same
  generalize p' s' = x' at same
  cases same with
  | ok left => exact .ok left
  | miss => exact .ok (stays s s' related)
  | fatal => exact .fatal

theorem filterMap {f : α → Option β} (alike : Alike P (fun _ => R) p p') :
    Alike P (fun _ => R) (filterMap p f) (filterMap p' f) := by
  intro s s' related
  have same := alike s s' related
  unfold Reader.filterMap
  generalize p s = x at same
  generalize p' s' = x' at same
  cases same with
  | @ok a r r' left =>
    dsimp only
    cases f a with
    | none => exact .miss
    | some b => exact .ok left
  | miss => exact .miss
  | fatal => exact .fatal

/-- How often a reader is allowed to go on does not matter when it shortens the text each time. -/
theorem manyUpTo (item : Alike P (fun _ => P) p p') (shortens : Takes (· ≠ []) p)
    (shortens' : Takes (· ≠ []) p') (ends : Misses p []) (ends' : Misses p' []) {n n' : Nat}
    {s s' : List Char} (related : P s s') (enough : s.length ≤ n) (enough' : s'.length ≤ n') :
    SameResult (fun _ => P) (manyUpTo p n s) (manyUpTo p' n' s') := by
  have none {p : Reader α} {s : List Char} (misses : Misses p s) (n : Nat) :
      Reader.manyUpTo p n s = .ok ([], s) :=
    manyUpTo_of_items (fun _ => s) (List.forall_mem_nil _) misses n (Nat.zero_le n)
  have same := item s s' related
  induction n generalizing n' s s' with
  | zero =>
    obtain rfl : s = [] := List.eq_nil_of_length_eq_zero (Nat.le_zero.mp enough)
    obtain ⟨rest, missed⟩ := ends
    rw [missed] at same
    have misses' : Misses p' s' := by
      generalize outcome : p' s' = x' at same
      cases same with
      | @miss _ r' => exact ⟨r', outcome⟩
    rw [none ⟨rest, missed⟩, none misses']
    exact .ok related
  | succ n ih =>
    cases n' with
    | zero =>
      obtain rfl : s' = [] := List.eq_nil_of_length_eq_zero (Nat.le_zero.mp enough')
      obtain ⟨rest, missed⟩ := ends'
      rw [missed] at same
      have misses : Misses p s := by
        generalize outcome : p s = x at same
        cases same with
        | @miss r _ => exact ⟨r, outcome⟩
      rw [none ⟨rest, missed⟩, none misses]
      exact .ok related
    | succ n' =>
      generalize outcome : p s = x at same
      generalize outcome' : p' s' = x' at same
      cases same with
      | @ok a r r' left =>
        have shorter := shortens.length_lt outcome
        have shorter' := shortens'.length_lt outcome'
        rw [Reader.manyUpTo, Reader.manyUpTo, bind_of_ok (optional_of_ok outcome),
          bind_of_ok (optional_of_ok outcome')]
        have others : SameResult (fun _ => P) (Reader.manyUpTo p n r) (Reader.manyUpTo p' n' r') :=
          ih left (by omega) (by omega) (item r r' left)
        dsimp only
        simp only [Bind.bind, StateT.bind]
        generalize Reader.manyUpTo p n r = x at others
        generalize Reader.manyUpTo p' n' r' = x' at others
        cases others with
        | ok left => exact .ok left
        | miss => exact .miss
        | fatal => exact .fatal
      | @miss r r' =>
        rw [none ⟨r, outcome⟩, none ⟨r', outcome'⟩]
        exact .ok related
      | @fatal r r' =>
        simp only [Reader.manyUpTo, Bind.bind, StateT.bind, Reader.optional, outcome, outcome',
          Except.bind]
        exact .fatal

theorem many (item : Alike P (fun _ => P) p p') (shortens : Takes (· ≠ []) p)
    (shortens' : Takes (· ≠ []) p') (ends : Misses p []) (ends' : Misses p' []) :
    Alike P (fun _ => P) (many p) (many p') :=
  fun _ _ related => item.manyUpTo shortens shortens' ends ends' related (Nat.le_refl _)
    (Nat.le_refl _)

end Alike

def Below (n n' : Nat) (P : TextRel) : TextRel := fun s s' =>
  P s s' ∧ s.length < n ∧ s'.length < n'

namespace Alike

variable {P : TextRel} {Q : α → TextRel} {p p' : Reader α} {kind : List Char → Prop}

theorem bounded {m m' n n' : Nat} (alike : Alike P Q p p')
    (keeps : ∀ s a r, p s = .ok (a, r) → s.length < m → r.length < n)
    (keeps' : ∀ s a r, p' s = .ok (a, r) → s.length < m' → r.length < n') :
    Alike (Below m m' P) (fun a => Below n n' (Q a)) p p' := by
  rintro s s' ⟨related, short, short'⟩
  have same := alike s s' related
  generalize outcome : p s = x at same
  generalize outcome' : p' s' = x' at same
  cases same with
  | ok left => exact .ok ⟨left, keeps s _ _ outcome short, keeps' s' _ _ outcome' short'⟩
  | miss => exact .miss
  | fatal => exact .fatal

theorem below (alike : Alike P Q p p') (takes : Takes kind p) (takes' : Takes kind p') (n n' : Nat) :
    Alike (Below n n' P) (fun a => Below n n' (Q a)) p p' :=
  alike.bounded (fun _ _ _ taken short => (takes.length_le taken).trans_lt short)
    fun _ _ _ taken short => (takes'.length_le taken).trans_lt short

theorem stays_below {n n' : Nat} (alike : Alike (Below n n' P) Q p p') (takes : Takes kind p)
    (takes' : Takes kind p') : Alike (Below n n' P) (fun a => Below n n' (Q a)) p p' :=
  (alike.below takes takes' n n').of_imp fun _ _ related => ⟨related, related.2⟩

theorem below_succ (alike : Alike P Q p p') (takes : Takes (· ≠ []) p)
    (takes' : Takes (· ≠ []) p') (n n' : Nat) :
    Alike (Below (n + 1) (n' + 1) P) (fun a => Below n n' (Q a)) p p' :=
  alike.bounded (fun _ _ _ taken short => (takes.length_lt taken).trans_le (Nat.le_of_lt_succ short))
    fun _ _ _ taken short => (takes'.length_lt taken).trans_le (Nat.le_of_lt_succ short)

end Alike

end PlainTables.Reader
