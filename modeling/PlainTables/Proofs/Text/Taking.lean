import Mathlib.Data.List.TakeWhile
import PlainTables.Proofs.Text.Reader

/-!
# What readers take off a text

A reader that goes on has taken the front of its text. Where the pieces that its parts take can be put together
to one of the same kind, it takes a piece of this kind.

Whether a reader goes on, misses or stops for good, what it leaves is an end of the text it was given. A place at
which reading stops for good can be told apart from the others by a property of what is left there.
-/

namespace PlainTables.Reader

variable {α β : Type} {kind kind' kind'' : List Char → Prop} {p q : Reader α}

/-- What the reader takes off the front of a text is of the kind. -/
def Takes (kind : List Char → Prop) (p : Reader α) : Prop :=
  ∀ s a r, p s = .ok (a, r) → ∃ t, kind t ∧ s = t ++ r

/-- Nothing is of the kind, and pieces of the kind put together are. -/
structure Joins (kind : List Char → Prop) : Prop where
  nil : kind []
  append {t u : List Char} : kind t → kind u → kind (t ++ u)

namespace Takes

theorem length_le (takes : Takes kind p) {s r : List Char} {a : α} (taken : p s = .ok (a, r)) :
    r.length ≤ s.length := by
  obtain ⟨t, -, rfl⟩ := takes s a r taken
  rw [List.length_append]
  omega

theorem length_lt (takes : Takes (· ≠ []) p) {s r : List Char} {a : α} (taken : p s = .ok (a, r)) :
    r.length < s.length := by
  obtain ⟨t, nonempty, rfl⟩ := takes s a r taken
  have := List.length_pos_iff.mpr nonempty
  rw [List.length_append]
  omega

theorem bind_of {f : α → Reader β} (first : Takes kind p) (rest : ∀ a, Takes kind' (f a))
    (join : ∀ t u, kind t → kind' u → kind'' (t ++ u)) : Takes kind'' (p >>= f) := by
  intro s b r taken
  obtain ⟨a, r', read, others⟩ := exists_of_bind_ok taken
  obtain ⟨t, firstKind, rfl⟩ := first s a r' read
  obtain ⟨u, restKind, rfl⟩ := rest a r' b r others
  exact ⟨t ++ u, join t u firstKind restKind, (List.append_assoc t u r).symm⟩

theorem bind_nonempty {f : α → Reader β} (first : Takes (· ≠ []) p) (rest : ∀ a, Takes kind (f a)) :
    Takes (· ≠ []) (p >>= f) :=
  first.bind_of rest fun _ _ nonempty _ => List.append_ne_nil_of_left_ne_nil nonempty _

theorem miss : Takes kind (miss : Reader α) := nofun

theorem orElse (first : Takes kind p) (second : Takes kind q) : Takes kind (orElse p q) := by
  intro s a r taken
  unfold Reader.orElse at taken
  split at taken
  · exact second s a r taken
  · exact first s a r taken

theorem filterMap {f : α → Option β} (takes : Takes kind p) : Takes kind (filterMap p f) := by
  intro s b r taken
  unfold Reader.filterMap at taken
  split at taken
  · next a r' read =>
    split at taken
    · cases taken
      exact takes s a r read
    · cases taken
  · cases taken

theorem satisfy {accepts : Char → Bool} (each : ∀ c, accepts c → kind [c]) :
    Takes kind (satisfy accepts) := by
  intro s a r taken
  unfold Reader.satisfy at taken
  split at taken
  · split at taken
    · next accepted =>
      cases taken
      exact ⟨[a], each a accepted, rfl⟩
    · cases taken
  · cases taken

theorem takeWhile1 {accepts : Char → Bool}
    (all : ∀ t, t ≠ [] → (∀ c ∈ t, accepts c) → kind t) : Takes kind (takeWhile1 accepts) := by
  intro s a r taken
  unfold Reader.takeWhile1 Reader.filterMap Reader.takeWhile at taken
  dsimp only at taken
  split at taken
  · next read =>
    split at read
    · cases read
    · next nonempty =>
      cases read
      cases taken
      refine ⟨s.takeWhile accepts, all _ (by simpa using nonempty) ?_,
        List.takeWhile_append_dropWhile.symm⟩
      intro c mem
      exact List.mem_takeWhile_imp mem
  · cases taken

theorem tag {word : String} (all : ∀ t, t.map Char.toUpper = word.toList → kind t) :
    Takes kind (tag word) := by
  intro s a r taken
  unfold Reader.tag at taken
  dsimp only at taken
  split at taken
  · next same =>
    cases taken
    exact ⟨s.take word.length, all _ same, (List.take_append_drop _ _).symm⟩
  · cases taken

theorem exactly {symbol : String} (holds : kind symbol.toList) : Takes kind (exactly symbol) := by
  intro s a r taken
  unfold Reader.exactly at taken
  split at taken
  · next same =>
    cases taken
    exact ⟨s.take symbol.length, same.symm ▸ holds, (List.take_append_drop _ _).symm⟩
  · cases taken

end Takes

namespace Joins

variable (joins : Joins kind)

include joins

theorem takes_nothing {s : List Char} : ∃ t, kind t ∧ s = t ++ s :=
  ⟨[], joins.nil, rfl⟩

theorem pure (a : α) : Takes kind (pure a : Reader α) := by
  intro s b r taken
  cases taken
  exact joins.takes_nothing

theorem bind {f : α → Reader β} (first : Takes kind p) (rest : ∀ a, Takes kind (f a)) :
    Takes kind (p >>= f) :=
  first.bind_of rest fun _ _ => joins.append

theorem map {f : α → β} (takes : Takes kind p) : Takes kind (do return f (← p)) :=
  joins.bind takes fun a => joins.pure (f a)

theorem optional (takes : Takes kind p) : Takes kind (optional p) := by
  intro s a r taken
  unfold Reader.optional at taken
  split at taken
  · next a r' read =>
    cases taken
    exact takes s a r read
  · cases taken
    exact joins.takes_nothing
  · cases taken

theorem of_each {t : List Char} (each : ∀ c ∈ t, kind [c]) : kind t := by
  induction t with
  | nil => exact joins.nil
  | cons c t ih =>
    obtain ⟨first, others⟩ := List.forall_mem_cons.mp each
    exact joins.append first (ih others)

theorem char {c : Char} (holds : kind [c]) : Takes kind (char c) := by
  refine joins.bind (.satisfy ?_) fun _ => joins.pure ()
  intro d same
  rw [of_decide_eq_true same]
  exact holds

theorem takeWhile {accepts : Char → Bool} (each : ∀ c, accepts c → kind [c]) :
    Takes kind (takeWhile accepts) := by
  intro s a r taken
  cases taken
  refine ⟨s.takeWhile accepts, joins.of_each ?_, List.takeWhile_append_dropWhile.symm⟩
  intro c mem
  exact each c (List.mem_takeWhile_imp mem)

theorem dropWhile {accepts : Char → Bool} (each : ∀ c, accepts c → kind [c]) :
    Takes kind (fun s => .ok ((), s.dropWhile accepts) : Reader Unit) := by
  intro s a r taken
  cases taken
  refine ⟨s.takeWhile accepts, joins.of_each ?_, List.takeWhile_append_dropWhile.symm⟩
  intro c mem
  exact each c (List.mem_takeWhile_imp mem)

theorem notFollowedBy (accepts : Char → Bool) : Takes kind (notFollowedBy accepts) := by
  intro s a r taken
  unfold Reader.notFollowedBy at taken
  split at taken
  · split at taken
    · cases taken
    · cases taken
      exact joins.takes_nothing
  · cases taken
    exact joins.takes_nothing

theorem manyUpTo (item : Takes kind p) (n : Nat) : Takes kind (manyUpTo p n) := by
  induction n with
  | zero => exact joins.pure []
  | succ n ih =>
    refine joins.bind (joins.optional item) fun a? => ?_
    cases a? with
    | none => exact joins.pure []
    | some a => exact joins.map ih

theorem many (item : Takes kind p) : Takes kind (many p) :=
  fun s => joins.manyUpTo item s.length s

theorem separated {separator : Reader Unit} (between : Takes kind separator) (item : Takes kind p) :
    Takes kind (separated separator p) := by
  refine joins.bind item fun first => ?_
  exact joins.map (joins.many (joins.bind between fun _ => item))

theorem within {gap : Reader Unit} (around : Takes kind gap) (takes : Takes kind p) :
    Takes kind (within gap p) :=
  joins.bind around fun _ => joins.bind takes fun a => joins.bind around fun _ => joins.pure a

end Joins

/-! ## Where reading ends -/

variable {fatal : List Char → Prop}

/-- What is left when a reading has ended is an end of the text, with the property if it has ended for good. -/
inductive EndsWithin (fatal : List Char → Prop) (s : List Char) : Except Stop (α × List Char) → Prop
  | ok {a : α} {r : List Char} : r <:+ s → EndsWithin fatal s (.ok (a, r))
  | miss {r : List Char} : r <:+ s → EndsWithin fatal s (.error (.miss r))
  | fatal {r : List Char} : r <:+ s → fatal r → EndsWithin fatal s (.error (.fatal r))

theorem EndsWithin.trans {x : Except Stop (α × List Char)} {s r : List Char}
    (ends : EndsWithin fatal r x) (behind : r <:+ s) : EndsWithin fatal s x := by
  cases ends with
  | ok left => exact .ok (left.trans behind)
  | miss left => exact .miss (left.trans behind)
  | fatal left holds => exact .fatal (left.trans behind) holds

/-- From every text the reader ends within this text. -/
def Stays (fatal : List Char → Prop) (p : Reader α) : Prop :=
  ∀ s, EndsWithin fatal s (p s)

namespace Stays

theorem pure (a : α) : Stays fatal (pure a : Reader α) :=
  fun s => .ok s.suffix_rfl

theorem miss : Stays fatal (miss : Reader α) :=
  fun s => .miss s.suffix_rfl

theorem bind {f : α → Reader β} (first : Stays fatal p) (rest : ∀ a, Stays fatal (f a)) :
    Stays fatal (p >>= f) := by
  intro s
  have ends := first s
  simp only [Bind.bind, StateT.bind]
  generalize p s = x at ends
  cases ends with
  | ok behind => exact (rest _ _).trans behind
  | miss behind => exact .miss behind
  | fatal behind holds => exact .fatal behind holds

theorem map {f : α → β} (stays : Stays fatal p) : Stays fatal (do return f (← p)) :=
  stays.bind fun a => pure (f a)

theorem orElse (first : Stays fatal p) (second : Stays fatal q) : Stays fatal (orElse p q) := by
  intro s
  have ends := first s
  unfold Reader.orElse
  generalize p s = x at ends
  cases ends with
  | ok behind => exact .ok behind
  | miss _ => exact second s
  | fatal behind holds => exact .fatal behind holds

theorem optional (stays : Stays fatal p) : Stays fatal (optional p) := by
  intro s
  have ends := stays s
  unfold Reader.optional
  generalize p s = x at ends
  cases ends with
  | ok behind => exact .ok behind
  | miss _ => exact .ok s.suffix_rfl
  | fatal behind holds => exact .fatal behind holds

theorem filterMap {f : α → Option β} (stays : Stays fatal p) : Stays fatal (filterMap p f) := by
  intro s
  have ends := stays s
  unfold Reader.filterMap
  generalize p s = x at ends
  cases ends with
  | @ok a r behind =>
    dsimp only
    cases f a with
    | none => exact .miss s.suffix_rfl
    | some b => exact .ok behind
  | miss behind => exact .miss behind
  | fatal behind holds => exact .fatal behind holds

theorem satisfy (accepts : Char → Bool) : Stays fatal (satisfy accepts) := by
  intro s
  unfold Reader.satisfy
  split
  · next c r =>
    split
    · exact .ok (List.suffix_cons c r)
    · exact .miss (c :: r).suffix_rfl
  · exact .miss List.suffix_rfl

theorem char (c : Char) : Stays fatal (char c) :=
  (satisfy _).bind fun _ => pure ()

theorem takeWhile (accepts : Char → Bool) : Stays fatal (takeWhile accepts) :=
  fun _ => .ok (List.dropWhile_suffix accepts)

theorem takeWhile1 (accepts : Char → Bool) : Stays fatal (takeWhile1 accepts) :=
  filterMap (takeWhile accepts)

theorem notFollowedBy (accepts : Char → Bool) : Stays fatal (notFollowedBy accepts) := by
  intro s
  unfold Reader.notFollowedBy
  split
  · split
    · exact .miss List.suffix_rfl
    · exact .ok List.suffix_rfl
  · exact .ok List.suffix_rfl

theorem tag (word : String) : Stays fatal (tag word) := by
  intro s
  unfold Reader.tag
  dsimp only
  split
  · exact .ok (List.drop_suffix word.length s)
  · exact .miss s.suffix_rfl

theorem exactly (symbol : String) : Stays fatal (exactly symbol) := by
  intro s
  unfold Reader.exactly
  split
  · exact .ok (List.drop_suffix symbol.length s)
  · exact .miss s.suffix_rfl

theorem spaces : Stays fatal spaces :=
  fun _ => .ok (List.dropWhile_suffix isSpace)

theorem spaced (stays : Stays fatal p) : Stays fatal (spaced p) :=
  spaces.bind fun _ => stays.bind fun a => spaces.bind fun _ => pure a

theorem manyUpTo (item : Stays fatal p) (n : Nat) : Stays fatal (manyUpTo p n) := by
  induction n with
  | zero => exact pure []
  | succ n ih =>
    refine item.optional.bind fun a? => ?_
    cases a? with
    | none => exact pure []
    | some a => exact ih.map

theorem many (item : Stays fatal p) : Stays fatal (many p) :=
  fun s => item.manyUpTo s.length s

theorem separated {separator : Reader Unit} (between : Stays fatal separator) (item : Stays fatal p) :
    Stays fatal (separated separator p) :=
  item.bind fun _ => (between.bind fun _ => item).many.map

end Stays

end PlainTables.Reader
