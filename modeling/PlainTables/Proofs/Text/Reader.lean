import PlainTables.Text.Reader

/-!
# What readers take and miss

One lemma for each way to put readers together: what the whole takes if its parts take something, and
when it misses.
-/

namespace PlainTables.Reader

variable {α β : Type} {p q : Reader α} {f : α → Reader β} {s r : List Char} {a : α}

def Misses (p : Reader α) (s : List Char) : Prop :=
  ∃ rest, p s = .error (.miss rest)

theorem bind_of_ok (taken : p s = .ok (a, r)) : (p >>= f) s = f a r := by
  simp only [bind, StateT.bind, taken, Except.bind]

theorem exists_of_bind_ok {b : β} (taken : (p >>= f) s = .ok (b, r)) :
    ∃ a r', p s = .ok (a, r') ∧ f a r' = .ok (b, r) := by
  cases read : p s with
  | error stop =>
    simp only [bind, StateT.bind, read, Except.bind] at taken
    cases taken
  | ok result =>
    rw [bind_of_ok read] at taken
    exact ⟨result.1, result.2, rfl, taken⟩

/-- A reader goes on in the same way from texts that are the same to its first step. -/
theorem bind_congr_left {s' : List Char} (same : p s = p s') : (p >>= f) s = (p >>= f) s' := by
  simp only [bind, StateT.bind, same]

theorem pure_eq (a : α) (s : List Char) : (pure a : Reader α) s = .ok (a, s) := rfl

theorem Misses.bind (misses : Misses p s) : Misses (p >>= f) s := by
  obtain ⟨rest, missed⟩ := misses
  exact ⟨rest, by simp only [Bind.bind, StateT.bind, missed, Except.bind]⟩

theorem Misses.bind_of_ok (taken : p s = .ok (a, r)) (misses : Misses (f a) r) :
    Misses (p >>= f) s := by
  obtain ⟨rest, missed⟩ := misses
  exact ⟨rest, by rw [Reader.bind_of_ok taken, missed]⟩

theorem orElse_of_ok (taken : p s = .ok (a, r)) : orElse p q s = .ok (a, r) := by
  simp only [orElse, taken]

theorem orElse_of_misses (misses : Misses p s) : orElse p q s = q s := by
  obtain ⟨rest, missed⟩ := misses
  simp only [orElse, missed]

theorem Misses.orElse (first : Misses p s) (second : Misses q s) : Misses (orElse p q) s := by
  rw [Misses, orElse_of_misses first]
  exact second

theorem optional_of_ok (taken : p s = .ok (a, r)) : optional p s = .ok (some a, r) := by
  simp only [optional, taken]

theorem optional_of_misses (misses : Misses p s) : optional p s = .ok (none, s) := by
  obtain ⟨rest, missed⟩ := misses
  simp only [optional, missed]

theorem filterMap_of_some {g : α → Option β} {b : β} (taken : p s = .ok (a, r))
    (used : g a = some b) : filterMap p g s = .ok (b, r) := by
  simp only [filterMap, taken, used]

theorem filterMap_of_none {g : α → Option β} (taken : p s = .ok (a, r)) (unused : g a = none) :
    Misses (filterMap p g) s :=
  ⟨s, by simp only [filterMap, taken, unused]⟩

theorem Misses.filterMap {g : α → Option β} (misses : Misses p s) : Misses (filterMap p g) s := by
  obtain ⟨rest, missed⟩ := misses
  exact ⟨rest, by simp only [Reader.filterMap, missed]⟩

def Stops (kind : Char → Bool) (s : List Char) : Prop :=
  ∀ c ∈ s.head?, kind c = false

theorem takeWhile_append {kind : Char → Bool} {front : List Char} (all : ∀ c ∈ front, kind c)
    (stops : Stops kind r) : takeWhile kind (front ++ r) = .ok (front, r) := by
  have taken : r.takeWhile kind = [] ∧ r.dropWhile kind = r := by
    cases r with
    | nil => exact ⟨rfl, rfl⟩
    | cons c r =>
      have stop : kind c = false := stops c rfl
      exact ⟨by simp [stop], by simp [stop]⟩
  rw [takeWhile, List.takeWhile_append_of_pos all, List.dropWhile_append_of_pos all, taken.1,
    taken.2, List.append_nil]

theorem takeWhile1_append {kind : Char → Bool} {front : List Char} (nonempty : front ≠ [])
    (all : ∀ c ∈ front, kind c) (stops : Stops kind r) :
    takeWhile1 kind (front ++ r) = .ok (front, r) :=
  filterMap_of_some (takeWhile_append all stops) (by simp [nonempty])

theorem takeWhile1_misses {kind : Char → Bool} (stops : Stops kind s) :
    Misses (takeWhile1 kind) s :=
  filterMap_of_none (takeWhile_append (List.forall_mem_nil _) stops) rfl

theorem notFollowedBy_of_stops {kind : Char → Bool} (stops : Stops kind s) :
    notFollowedBy kind s = .ok ((), s) := by
  cases s with
  | nil => rfl
  | cons c s =>
    have stop : kind c = false := stops c rfl
    simp [notFollowedBy, stop]

theorem satisfy_of_pos {kind : Char → Bool} {c : Char} (isKind : kind c = true) :
    satisfy kind (c :: s) = .ok (c, s) := by
  simp [satisfy, isKind]

theorem satisfy_misses {kind : Char → Bool} (stops : Stops kind s) :
    Misses (satisfy kind) s := by
  cases s with
  | nil => exact ⟨[], rfl⟩
  | cons c s =>
    have stop : kind c = false := stops c rfl
    exact ⟨c :: s, by simp [satisfy, stop]⟩

theorem char_cons (c : Char) (s : List Char) : char c (c :: s) = .ok ((), s) :=
  bind_of_ok (satisfy_of_pos (by simp))

theorem char_misses {c : Char} (other : s.head? ≠ some c) : Misses (char c) s := by
  refine Misses.bind (satisfy_misses fun d head => ?_)
  simp only [decide_eq_false_iff_not]
  rintro rfl
  exact other head

theorem tag_append {word : String} (upper : word.toList.map Char.toUpper = word.toList) :
    tag word (word.toList ++ s) = .ok ((), s) := by
  rw [tag, ← String.length_toList, List.take_left, List.drop_left, if_pos upper]

theorem tag_misses {word : String}
    (other : (s.take word.toList.length).map Char.toUpper ≠ word.toList) :
    Misses (tag word) s :=
  ⟨s, by rw [tag, ← String.length_toList, if_neg other]⟩

theorem tag_misses_of_head {word : String} {c : Char}
    (other : word.toList.head? ≠ some c.toUpper) (nonempty : word.toList ≠ []) :
    Misses (tag word) (c :: s) := by
  refine tag_misses fun same => ?_
  obtain ⟨d, letters, spelling⟩ := List.exists_cons_of_ne_nil nonempty
  rw [spelling, List.length_cons, List.take_succ_cons, List.map_cons,
    List.cons.injEq] at same
  rw [spelling, List.head?_cons, same.1] at other
  exact other rfl

theorem manyUpTo_of_items {ι : Type} {p : Reader ι} (text : List ι → List Char) {items : List ι}
    (each : ∀ x ∈ items, ∀ xs, p (text (x :: xs)) = .ok (x, text xs))
    (misses : Misses p (text [])) (n : Nat) (enough : items.length ≤ n) :
    manyUpTo p n (text items) = .ok (items, text []) := by
  induction items generalizing n with
  | nil =>
    cases n with
    | zero => rfl
    | succ n =>
      rw [manyUpTo, bind_of_ok (optional_of_misses misses)]
      rfl
  | cons x xs ih =>
    match n, enough with
    | n + 1, enough =>
      have others := ih (fun y mem => each y (List.mem_cons_of_mem _ mem)) n
        (Nat.le_of_succ_le_succ enough)
      rw [manyUpTo, bind_of_ok (optional_of_ok (each x List.mem_cons_self xs))]
      simp only
      rw [bind_of_ok others]
      rfl

end PlainTables.Reader
