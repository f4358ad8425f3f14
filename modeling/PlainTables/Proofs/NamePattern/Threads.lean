import PlainTables.Proofs.NamePattern.Steps

/-!
# Following all runs at once

The matcher keeps the steps that runs wait at, each step once. As the steps that have been reached are closed
under what leads on without a character, no run is lost by that: a match is found if and only if some run
comes to the end of the program.
-/

namespace PlainTables.NamePattern.Program

def placeAt (offset : Nat) (before : Option Char) (s : List Char) : Place :=
  { offset, before, after := s.head? }

/-- Where a step leads without taking a character; none if it waits for one, or accepts. -/
def onward? (p : Program) (place : Place) (step : Nat) : Option (List Nat) :=
  match p.steps[step]? with
  | some (.split preferred other) => some [preferred, other]
  | some (.look a next) => some (if a.holds place.before place.after then [next] else [])
  | some (.mark _ next) => some [next]
  | _ => none

/-- The step has been reached, or is none of the program. -/
abbrev Marked (reached : Array Bool) (step : Nat) : Prop := reached.getD step true = true

def unmarked (reached : Array Bool) : Nat := reached.toList.countP (!·)

section

variable {reached : Array Bool} {step i : Nat}

theorem lt_size_of_not_marked (fresh : ¬ Marked reached step) :
    ∃ within : step < reached.size, reached[step] = false := by
  unfold Marked at fresh
  by_cases within : step < reached.size
  · refine ⟨within, ?_⟩
    rw [Array.getD_eq_getD_getElem?, Array.getElem?_eq_getElem within] at fresh
    exact (Bool.not_eq_true _).mp fresh
  · rw [Array.getD_eq_getD_getElem?, Array.getElem?_eq_none (Nat.le_of_not_lt within)] at fresh
    exact absurd rfl fresh

theorem marked_setIfInBounds :
    Marked (reached.setIfInBounds step true) i ↔ i = step ∨ Marked reached i := by
  unfold Marked
  rw [Array.getD_eq_getD_getElem?, Array.getD_eq_getD_getElem?]
  by_cases same : i = step
  · subst same
    simp only [Array.getElem?_setIfInBounds_self, true_or, iff_true]
    split <;> rfl
  · rw [Array.getElem?_setIfInBounds_ne (Ne.symm same)]
    simp [same]

theorem unmarked_setIfInBounds (fresh : ¬ Marked reached step) :
    unmarked (reached.setIfInBounds step true) + 1 = unmarked reached := by
  obtain ⟨within, value⟩ := lt_size_of_not_marked fresh
  have here : 0 < reached.toList.countP (!·) := by
    apply List.countP_pos_iff.mpr
    exact ⟨reached[step], Array.getElem_mem_toList within, by rw [value]; rfl⟩
  rw [unmarked, Array.toList_setIfInBounds, List.countP_set (by simpa using within)]
  simp only [Array.getElem_toList, value, unmarked, Bool.not_false, Bool.not_true, if_true,
    Bool.false_eq_true, if_false]
  omega

end

variable {p : Program} {place : Place} {work : List Thread} {front : Front} {t : Thread}
  {offset : Nat} {before : Option Char} {s : List Char}

theorem onward?_length {step : Nat} {nexts : List Nat} (leads : p.onward? place step = some nexts) :
    nexts.length ≤ 2 := by
  unfold onward? at leads
  split at leads
  · cases leads
    exact Nat.le_refl 2
  · cases leads
    split
    · exact Nat.le_succ 1
    · exact Nat.zero_le 2
  · cases leads
    exact Nat.le_succ 1
  · cases leads

theorem canEnd_onward {step : Nat} {nexts : List Nat}
    (leads : p.onward? (placeAt offset before s) step = some nexts) :
    (∀ n, Ends p.steps n step before s → ∃ next ∈ nexts, ∃ m < n, Ends p.steps m next before s) ∧
      (∀ next ∈ nexts, CanEnd p.steps next before s → CanEnd p.steps step before s) := by
  unfold onward? at leads
  split at leads
  · next preferred other found =>
    cases leads
    constructor
    · intro n ends
      obtain ⟨m, _, _, _, rfl, steps, further⟩ := ends.of_step found Step.noConfusion
      cases steps with
      | preferred => exact ⟨preferred, by simp, m, Nat.lt_succ_self m, further⟩
      | other => exact ⟨other, by simp, m, Nat.lt_succ_self m, further⟩
    · intro next mem ends
      rw [List.mem_cons, List.mem_singleton] at mem
      rcases mem with rfl | rfl
      · exact ends.step found .preferred
      · exact ends.step found .other
  · next a next found =>
    cases leads
    constructor
    · intro n ends
      obtain ⟨m, _, _, _, rfl, steps, further⟩ := ends.of_step found Step.noConfusion
      cases steps with
      | look holds =>
        have passes : a.holds (placeAt offset before s).before (placeAt offset before s).after = true :=
          holds
        rw [if_pos passes]
        exact ⟨next, List.mem_singleton_self _, m, Nat.lt_succ_self m, further⟩
    · intro next' mem ends
      split at mem
      · next holds =>
        rw [List.mem_singleton.mp mem] at ends
        exact ends.step found (.look holds)
      · cases mem
  · next name next found =>
    cases leads
    constructor
    · intro n ends
      obtain ⟨m, _, _, _, rfl, steps, further⟩ := ends.of_step found Step.noConfusion
      cases steps with
      | mark => exact ⟨next, List.mem_singleton_self _, m, Nat.lt_succ_self m, further⟩
    · intro next' mem ends
      rw [List.mem_singleton.mp mem] at ends
      exact ends.step found .mark
  · cases leads

/-- A run that waits takes the next character, unless it has come to the end of the program. -/
theorem canEnd_waiting {step : Nat} (waits : p.onward? place step = none) :
    CanEnd p.steps step before s ↔ p.steps[step]? = some .accept ∨
      ∃ c rest next, s = c :: rest ∧ p.next? step c = some next ∧
        CanEnd p.steps next (some c) rest := by
  constructor
  · rintro ⟨n, ends⟩
    cases ends with
    | accept accepts => exact .inl accepts
    | step found leads further =>
      right
      unfold onward? at waits
      rw [found] at waits
      cases leads with
      | @literal c =>
        refine ⟨c, _, _, rfl, ?_, _, further⟩
        simp only [next?, found, if_true]
      | @oneOf set c _ _ _ member =>
        refine ⟨c, _, _, rfl, ?_, _, further⟩
        simp only [next?, found, member, if_true]
      | look | mark | preferred | other => cases waits
  · rintro (accepts | ⟨c, rest, next, rfl, takes, ends⟩)
    · exact canEnd_accept accepts
    · unfold next? at takes
      split at takes
      · next d _ found =>
        split at takes
        · next same =>
          cases takes
          subst same
          exact ends.step found .literal
        · cases takes
      · next set _ found =>
        split at takes
        · next member =>
          cases takes
          exact ends.step found (.oneOf member)
        · cases takes
      · cases takes

theorem canEnd_next {step : Nat} {c : Char} {rest : List Char} (waits : p.onward? place step = none)
    (goesOn : p.steps[step]? ≠ some .accept) :
    CanEnd p.steps step before (c :: rest) ↔
      ∃ next, p.next? step c = some next ∧ CanEnd p.steps next (some c) rest := by
  rw [canEnd_waiting waits, or_iff_right goesOn]
  constructor
  · rintro ⟨_, _, next, ⟨⟩, takes⟩
    exact ⟨next, takes⟩
  · rintro ⟨next, takes⟩
    exact ⟨c, rest, next, rfl, takes⟩

/-- The front of runs at a place of the text: what leads on from a step that has been reached is reached or
still has to be followed, and for a step that has been reached and waits there is a way. -/
structure Closed (p : Program) (place : Place) (work : List Thread) (front : Front) : Prop where
  size_eq : front.2.size = p.steps.size
  onward : ∀ step, Marked front.2 step → ∀ nexts, p.onward? place step = some nexts →
    ∀ next ∈ nexts, Marked front.2 next ∨ ∃ t ∈ work, t.step = next
  waiting : ∀ step < p.steps.size, Marked front.2 step → p.onward? place step = none →
    ∃ t ∈ front.1, t.step = step
  waits : ∀ t ∈ front.1, p.onward? place t.step = none

def Wins (p : Program) (before : Option Char) (s : List Char) (threads : Array Thread) : Prop :=
  ∃ t ∈ threads, CanEnd p.steps t.step before s

theorem Closed.wins (closed : Closed p (placeAt offset before s) [] front) {step : Nat}
    (marked : Marked front.2 step) (ends : CanEnd p.steps step before s) : p.Wins before s front.1 := by
  obtain ⟨n, ends⟩ := ends
  induction n using Nat.strongRecOn generalizing step with
  | ind n ih =>
    cases leads : p.onward? (placeAt offset before s) step with
    | none =>
      have within : step < p.steps.size := by
        cases ends with
        | accept found => exact (Array.getElem?_eq_some_iff.mp found).1
        | step found => exact (Array.getElem?_eq_some_iff.mp found).1
      obtain ⟨t, mem, rfl⟩ := closed.waiting step within marked leads
      exact ⟨t, mem, n, ends⟩
    | some nexts =>
      obtain ⟨next, mem, m, fewer, further⟩ := (canEnd_onward leads).1 n ends
      rcases closed.onward step marked nexts leads next mem with reached | ⟨_, none, -⟩
      · exact ih m fewer reached further
      · cases none

section

variable {fuel : Nat} {ts : List Thread} {threads : Array Thread} {reached : Array Bool}

theorem follow_marked (marked : Marked reached t.step) :
    p.follow place (fuel + 1) (t :: ts) (threads, reached) = p.follow place fuel ts (threads, reached) :=
  if_pos marked

theorem follow_waiting (fresh : ¬ Marked reached t.step) (waits : p.onward? place t.step = none) :
    p.follow place (fuel + 1) (t :: ts) (threads, reached) =
      p.follow place fuel ts (threads.push t, reached.setIfInBounds t.step true) := by
  rw [follow, if_neg fresh]
  cases found : p.steps[t.step]? with
  | none => rfl
  | some step =>
    rw [onward?, found] at waits
    cases step with
    | split | look | mark => cases waits
    | literal | oneOf | accept => rfl

theorem follow_onward (fresh : ¬ Marked reached t.step) {nexts : List Nat}
    (leads : p.onward? place t.step = some nexts) :
    ∃ further : List Thread, further.map Thread.step = nexts ∧
      p.follow place (fuel + 1) (t :: ts) (threads, reached) =
        p.follow place fuel (further ++ ts) (threads, reached.setIfInBounds t.step true) := by
  rw [follow, if_neg fresh]
  cases found : p.steps[t.step]? with
  | none =>
    rw [onward?, found] at leads
    cases leads
  | some step =>
    rw [onward?, found] at leads
    cases step with
    | split preferred other =>
      cases leads
      exact ⟨[{ t with step := preferred }, { t with step := other }], rfl, rfl⟩
    | look a next =>
      cases leads
      refine ⟨if a.holds place.before place.after then [{ t with step := next }] else [], ?_, ?_⟩
      · split <;> rfl
      · dsimp only
        split <;> rfl
    | mark name next =>
      cases leads
      exact ⟨[⟨next, (name, place.offset) :: t.marks⟩], rfl, rfl⟩
    | literal | oneOf | accept => cases leads

end

section

variable {ts further : List Thread} {threads : Array Thread} {reached : Array Bool}

theorem Closed.of_marked (closed : Closed p place (t :: ts) (threads, reached))
    (marked : Marked reached t.step) : Closed p place ts (threads, reached) where
  size_eq := closed.size_eq
  onward step here nexts leads next mem := by
    rcases closed.onward step here nexts leads next mem with there | ⟨t', mem', rfl⟩
    · exact .inl there
    · rcases List.mem_cons.mp mem' with rfl | later
      · exact .inl marked
      · exact .inr ⟨t', later, rfl⟩
  waiting := closed.waiting
  waits := closed.waits

theorem Closed.of_waiting (closed : Closed p place (t :: ts) (threads, reached))
    (waits : p.onward? place t.step = none) :
    Closed p place ts (threads.push t, reached.setIfInBounds t.step true) where
  size_eq := by
    rw [Array.size_setIfInBounds]
    exact closed.size_eq
  onward step here nexts leads next mem := by
    rcases marked_setIfInBounds.mp here with rfl | here
    · rw [waits] at leads
      cases leads
    · rcases closed.onward step here nexts leads next mem with there | ⟨t', mem', rfl⟩
      · exact .inl (marked_setIfInBounds.mpr (.inr there))
      · rcases List.mem_cons.mp mem' with rfl | later
        · exact .inl (marked_setIfInBounds.mpr (.inl rfl))
        · exact .inr ⟨t', later, rfl⟩
  waiting step within here none := by
    rcases marked_setIfInBounds.mp here with rfl | here
    · exact ⟨t, Array.mem_push_self, rfl⟩
    · obtain ⟨t', mem, rfl⟩ := closed.waiting step within here none
      exact ⟨t', Array.mem_push_of_mem t mem, rfl⟩
  waits t' mem := by
    rcases Array.mem_push.mp mem with earlier | rfl
    · exact closed.waits t' earlier
    · exact waits

theorem Closed.of_onward (closed : Closed p place (t :: ts) (threads, reached))
    (leads : p.onward? place t.step = some (further.map Thread.step)) :
    Closed p place (further ++ ts) (threads, reached.setIfInBounds t.step true) where
  size_eq := by
    rw [Array.size_setIfInBounds]
    exact closed.size_eq
  onward step here nexts leads' next mem := by
    rcases marked_setIfInBounds.mp here with rfl | here
    · rw [leads] at leads'
      cases leads'
      obtain ⟨t', mem', rfl⟩ := List.mem_map.mp mem
      exact .inr ⟨t', List.mem_append_left ts mem', rfl⟩
    · rcases closed.onward step here nexts leads' next mem with there | ⟨t', mem', rfl⟩
      · exact .inl (marked_setIfInBounds.mpr (.inr there))
      · rcases List.mem_cons.mp mem' with rfl | later
        · exact .inl (marked_setIfInBounds.mpr (.inl rfl))
        · exact .inr ⟨t', List.mem_append_right further later, rfl⟩
  waiting step within here none := by
    rcases marked_setIfInBounds.mp here with rfl | here
    · rw [leads] at none
      cases none
    · exact closed.waiting step within here none
  waits := closed.waits

end

/-- What following ways makes of a front: its ways stay, each way that was followed has been reached, and one
that has been added can come to the end only if one of those that were followed can. -/
structure Followed (p : Program) (before : Option Char) (s : List Char) (work : List Thread)
    (front front' : Front) : Prop where
  kept : ∀ t ∈ front.1, t ∈ front'.1
  marked : ∀ step, Marked front.2 step → Marked front'.2 step
  reached : ∀ t ∈ work, Marked front'.2 t.step
  sound : ∀ t ∈ front'.1, t ∈ front.1 ∨
    (CanEnd p.steps t.step before s → ∃ t ∈ work, CanEnd p.steps t.step before s)

namespace Followed

variable {ts further : List Thread} {threads : Array Thread} {reached : Array Bool} {front' : Front}

theorem nothing (front : Front) : Followed p before s [] front front where
  kept _ mem := mem
  marked _ here := here
  reached _ none := nomatch none
  sound _ mem := .inl mem

theorem of_marked (followed : Followed p before s ts (threads, reached) front')
    (marked : Marked reached t.step) : Followed p before s (t :: ts) (threads, reached) front' where
  kept := followed.kept
  marked := followed.marked
  reached := by
    rw [List.forall_mem_cons]
    exact ⟨followed.marked t.step marked, followed.reached⟩
  sound t' mem := by
    apply (followed.sound t' mem).imp_right
    intro wins ends
    obtain ⟨t'', later, ends⟩ := wins ends
    exact ⟨t'', List.mem_cons_of_mem t later, ends⟩

theorem of_waiting (followed : Followed p before s ts
      (threads.push t, reached.setIfInBounds t.step true) front') :
    Followed p before s (t :: ts) (threads, reached) front' where
  kept t' mem := followed.kept t' (Array.mem_push_of_mem t mem)
  marked step here := followed.marked step (marked_setIfInBounds.mpr (.inr here))
  reached := by
    rw [List.forall_mem_cons]
    exact ⟨followed.marked t.step (marked_setIfInBounds.mpr (.inl rfl)), followed.reached⟩
  sound t' mem := by
    rcases followed.sound t' mem with earlier | wins
    · rcases Array.mem_push.mp earlier with before | rfl
      · exact .inl before
      · exact .inr fun ends => ⟨t', List.mem_cons_self, ends⟩
    · right
      intro ends
      obtain ⟨t'', later, ends⟩ := wins ends
      exact ⟨t'', List.mem_cons_of_mem t later, ends⟩

theorem of_onward (followed : Followed p before s (further ++ ts)
      (threads, reached.setIfInBounds t.step true) front')
    (leads : p.onward? (placeAt offset before s) t.step = some (further.map Thread.step)) :
    Followed p before s (t :: ts) (threads, reached) front' where
  kept := followed.kept
  marked step here := followed.marked step (marked_setIfInBounds.mpr (.inr here))
  reached := by
    rw [List.forall_mem_cons]
    refine ⟨followed.marked t.step (marked_setIfInBounds.mpr (.inl rfl)), ?_⟩
    intro t' later
    exact followed.reached t' (List.mem_append_right further later)
  sound t' mem := by
    apply (followed.sound t' mem).imp_right
    intro wins ends
    obtain ⟨t'', mem', ends⟩ := wins ends
    rcases List.mem_append.mp mem' with next | later
    · have onward := (canEnd_onward leads).2 t''.step (List.mem_map_of_mem next) ends
      exact ⟨t, List.mem_cons_self, onward⟩
    · exact ⟨t'', List.mem_cons_of_mem t later, ends⟩

end Followed

/-- The fuel is enough, as every step is reached for the first time once and adds at most two ways. -/
theorem closed_follow {fuel : Nat} (enough : work.length + 2 * unmarked front.2 ≤ fuel)
    (closed : Closed p (placeAt offset before s) work front) :
    Closed p (placeAt offset before s) [] (p.follow (placeAt offset before s) fuel work front) ∧
      Followed p before s work front (p.follow (placeAt offset before s) fuel work front) := by
  induction fuel generalizing work front with
  | zero =>
    have none : work = [] := by
      apply List.eq_nil_of_length_eq_zero
      omega
    subst none
    exact ⟨closed, .nothing front⟩
  | succ fuel ih =>
    cases work with
    | nil => exact ⟨closed, .nothing front⟩
    | cons t ts =>
      obtain ⟨threads, reached⟩ := front
      rw [List.length_cons] at enough
      by_cases marked : Marked reached t.step
      · rw [follow_marked marked]
        have rest := ih (by omega) (closed.of_marked marked)
        exact ⟨rest.1, rest.2.of_marked marked⟩
      · have fewer := unmarked_setIfInBounds marked
        cases leads : p.onward? (placeAt offset before s) t.step with
        | none =>
          rw [follow_waiting marked leads]
          have rest := ih (by dsimp only at enough ⊢; omega) (closed.of_waiting leads)
          exact ⟨rest.1, rest.2.of_waiting⟩
        | some nexts =>
          obtain ⟨further, rfl, same⟩ := follow_onward marked leads
          rw [same]
          have few := onward?_length leads
          rw [List.length_map] at few
          have rest := ih (by rw [List.length_append]; dsimp only at enough ⊢; omega)
            (closed.of_onward leads)
          exact ⟨rest.1, rest.2.of_onward leads⟩

/-- With one more way followed, the front wins if it did before or the way can come to the end. -/
theorem closed_enter (closed : Closed p (placeAt offset before s) [] front) (t : Thread) :
    Closed p (placeAt offset before s) [] (p.enter (placeAt offset before s) t front) ∧
      (p.Wins before s (p.enter (placeAt offset before s) t front).1 ↔
        p.Wins before s front.1 ∨ CanEnd p.steps t.step before s) := by
  have open_ : Closed p (placeAt offset before s) [t] front :=
    { closed with
      onward := fun step here nexts leads next mem =>
        (closed.onward step here nexts leads next mem).imp_right fun ⟨_, absent, _⟩ => nomatch absent }
  have enough : [t].length + 2 * unmarked front.2 ≤ 2 * p.steps.size + 1 := by
    have all : unmarked front.2 ≤ front.2.toList.length := List.countP_le_length
    rw [Array.length_toList, closed.size_eq] at all
    rw [List.length_singleton]
    omega
  obtain ⟨closed', followed⟩ := closed_follow enough open_
  refine ⟨closed', ?_, ?_⟩
  · rintro ⟨t', mem, ends⟩
    rcases followed.sound t' mem with earlier | wins
    · exact .inl ⟨t', earlier, ends⟩
    · obtain ⟨t'', mem'', ends⟩ := wins ends
      rw [List.mem_singleton.mp mem''] at ends
      exact .inr ends
  · rintro (⟨t', mem, ends⟩ | ends)
    · exact ⟨t', followed.kept t' mem, ends⟩
    · exact closed'.wins (followed.reached t (List.mem_singleton_self t)) ends

theorem closed_noThreads (p : Program) (place : Place) : Closed p place [] p.noThreads := by
  have fresh (step : Nat) (within : step < p.steps.size) : ¬ Marked p.noThreads.2 step := by
    simp [Marked, noThreads, Array.getD, within]
  constructor
  · exact Array.size_replicate
  · intro step here nexts leads
    by_cases within : step < p.steps.size
    · exact absurd here (fresh step within)
    · unfold onward? at leads
      rw [Array.getElem?_eq_none (Nat.le_of_not_lt within)] at leads
      cases leads
  · intro step within here
    exact absurd here (fresh step within)
  · intro t absent
    exact absurd absent (Array.not_mem_empty t)

theorem not_wins_noThreads : ¬ p.Wins before s p.noThreads.1 := by
  rintro ⟨t, absent, -⟩
  exact Array.not_mem_empty t absent

variable {ts : List Thread} {found : Option Marks} {c : Char} {rest : List Char}

theorem advance_accept (accepts : p.steps[t.step]? = some .accept) (c : Option Char) :
    p.advance c place (t :: ts) front found = (front, some t.marks) := by
  rw [advance, accepts]

theorem advance_waiting (goesOn : p.steps[t.step]? ≠ some .accept) (c : Option Char) :
    p.advance c place (t :: ts) front found =
      match c.bind (p.next? t.step) with
      | some next => p.advance c place ts (p.enter place { t with step := next } front) found
      | none => p.advance c place ts front found := by
  rw [advance]
  split
  · next accepts => exact absurd accepts goesOn
  · rfl

/-- On all ways a character is taken. A match is known or can be found in what is left, if and only if this
was so before. -/
theorem advance_some (found : Option Marks) (waits : ∀ t ∈ ts, p.onward? place t.step = none)
    (closed : Closed p (placeAt offset (some c) rest) [] front) :
    Closed p (placeAt offset (some c) rest) []
        (p.advance (some c) (placeAt offset (some c) rest) ts front found).1 ∧
      ((p.advance (some c) (placeAt offset (some c) rest) ts front found).2.isSome = true ∨
          p.Wins (some c) rest (p.advance (some c) (placeAt offset (some c) rest) ts front found).1.1 ↔
        (found.isSome = true ∨ p.Wins (some c) rest front.1) ∨
          ∃ t ∈ ts, CanEnd p.steps t.step before (c :: rest)) := by
  induction ts generalizing front with
  | nil => exact ⟨closed, by simp [advance]⟩
  | cons t ts ih =>
    rw [List.forall_mem_cons] at waits
    simp only [List.mem_cons, exists_eq_or_imp]
    by_cases accepts : p.steps[t.step]? = some .accept
    · rw [advance_accept accepts]
      exact ⟨closed, fun _ => .inr (.inl (canEnd_accept accepts)), fun _ => .inl rfl⟩
    · rw [advance_waiting accepts, Option.bind_some]
      split
      · next next taken =>
        have same : CanEnd p.steps t.step before (c :: rest) ↔ CanEnd p.steps next (some c) rest := by
          rw [canEnd_next waits.1 accepts, taken]
          simp
        have entered := closed_enter closed { t with step := next }
        have others := ih waits.2 entered.1
        refine ⟨others.1, others.2.trans ?_⟩
        rw [entered.2, same]
        simp only [or_assoc]
      · next stuck =>
        have never : ¬ CanEnd p.steps t.step before (c :: rest) := by
          rw [canEnd_next waits.1 accepts, stuck]
          simp
        have others := ih waits.2 closed
        refine ⟨others.1, others.2.trans ?_⟩
        simp [never]

theorem advance_none (waits : ∀ t ∈ ts, p.onward? place t.step = none) :
    (p.advance none place ts front found).2.isSome = true ↔
      found.isSome = true ∨ ∃ t ∈ ts, CanEnd p.steps t.step before [] := by
  induction ts with
  | nil => simp [advance]
  | cons t ts ih =>
    rw [List.forall_mem_cons] at waits
    simp only [List.mem_cons, exists_eq_or_imp]
    by_cases accepts : p.steps[t.step]? = some .accept
    · rw [advance_accept accepts]
      exact ⟨fun _ => .inr (.inl (canEnd_accept accepts)), fun _ => rfl⟩
    · have never : ¬ CanEnd p.steps t.step before [] := by
        rw [canEnd_waiting waits.1]
        simp [accepts]
      rw [advance_waiting accepts, Option.bind_none]
      simp only [never, false_or]
      exact ih waits.2

def started (p : Program) (place : Place) (front : Front) (found : Option Marks) : Front :=
  if found.isNone then p.enter place { step := p.start } front else front

theorem closed_started (closed : Closed p (placeAt offset before s) [] front)
    (found : Option Marks) :
    Closed p (placeAt offset before s) [] (p.started (placeAt offset before s) front found) ∧
      (found.isSome = true ∨
          p.Wins before s (p.started (placeAt offset before s) front found).1 ↔
        found.isSome = true ∨ p.Wins before s front.1 ∨ CanEnd p.steps p.start before s) := by
  cases found with
  | some marks => exact ⟨closed, by simp⟩
  | none =>
    have entered := closed_enter closed { step := p.start }
    exact ⟨entered.1, or_congr_right entered.2⟩

/-- The places of a text are the first one and those behind its first character. -/
theorem exists_place_cons {Q : Option Char → List Char → Prop} :
    (∃ taken rest', c :: rest = taken ++ rest' ∧ Q (behind before taken) rest') ↔
      Q before (c :: rest) ∨
        ∃ taken rest', rest = taken ++ rest' ∧ Q (behind (some c) taken) rest' := by
  constructor
  · rintro ⟨taken, rest', same, holds⟩
    rcases List.cons_eq_append_iff.mp same with ⟨rfl, rfl⟩ | ⟨taken, rfl, rfl⟩
    · exact .inl holds
    · rw [behind_cons] at holds
      exact .inr ⟨taken, rest', rfl, holds⟩
  · rintro (holds | ⟨taken, rest', rfl, holds⟩)
    · exact ⟨[], c :: rest, rfl, holds⟩
    · refine ⟨c :: taken, rest', rfl, ?_⟩
      rw [behind_cons]
      exact holds

theorem matchFrom_nil :
    p.matchFrom [] place front found =
      (p.advance none place (p.started place front found).1.toList p.noThreads found).2 := rfl

theorem matchFrom_cons :
    p.matchFrom (c :: rest) (placeAt offset before (c :: rest)) front found =
      let place := placeAt offset before (c :: rest)
      let place' := placeAt (offset + 1) (some c) rest
      let advanced := p.advance (some c) place' (p.started place front found).1.toList p.noThreads found
      p.matchFrom rest place' advanced.1 advanced.2 := rfl

/-- A match is found if one is known, or if a run from a way or from a place further on comes to the end. -/
theorem matchFrom_isSome (found : Option Marks)
    (closed : Closed p (placeAt offset before s) [] front) :
    (p.matchFrom s (placeAt offset before s) front found).isSome = true ↔
      found.isSome = true ∨ p.Wins before s front.1 ∨
        ∃ taken rest, s = taken ++ rest ∧ CanEnd p.steps p.start (behind before taken) rest := by
  induction s generalizing offset before front found with
  | nil =>
    obtain ⟨started, wins⟩ := closed_started closed found
    rw [matchFrom_nil, advance_none fun t mem => started.waits t (Array.mem_toList_iff.mp mem)]
    simp only [Array.mem_toList_iff]
    refine wins.trans (or_congr_right (or_congr_right ?_))
    constructor
    · intro ends
      exact ⟨[], [], rfl, ends⟩
    · rintro ⟨taken, rest, nil, ends⟩
      obtain ⟨rfl, rfl⟩ := List.append_eq_nil_iff.mp nil.symm
      exact ends
  | cons c rest ih =>
    obtain ⟨started, wins⟩ := closed_started closed found
    obtain ⟨closed', same⟩ := advance_some found
      (fun t mem => started.waits t (Array.mem_toList_iff.mp mem))
      (p.closed_noThreads (placeAt (offset + 1) (some c) rest))
    rw [matchFrom_cons]
    dsimp only
    rw [ih _ closed', ← or_assoc, same]
    simp only [Array.mem_toList_iff, not_wins_noThreads, or_false]
    rw [exists_place_cons, ← or_assoc, ← or_assoc, or_assoc (c := CanEnd _ _ _ _), ← wins]
    rfl

end PlainTables.NamePattern.Program

namespace PlainTables.NamePattern

/-- A pattern matches a name if and only if it takes a text somewhere in it. -/
theorem captures?_isSome (p : NamePattern) (name : String) :
    (p.captures? name).isSome = true ↔ p.OccursIn name.toList := by
  have found := p.program.matchFrom_isSome none
    (p.program.closed_noThreads (Program.placeAt 0 none name.toList))
  rw [captures?, Program.captures?, Option.isSome_map]
  refine found.trans ?_
  simp only [Option.isSome_none, Bool.false_eq_true, false_or, Program.not_wins_noThreads]
  constructor
  · rintro ⟨front, rest, same, ends⟩
    obtain ⟨taken, rest', rfl, takes⟩ := p.canEnd_program.mp ends
    rw [behind_none] at takes
    exact ⟨front, taken, rest', same, takes⟩
  · rintro ⟨front, taken, rest, same, takes⟩
    rw [← behind_none] at takes
    exact ⟨front, taken ++ rest, same, p.canEnd_program.mpr ⟨taken, rest, rfl, takes⟩⟩

end PlainTables.NamePattern
