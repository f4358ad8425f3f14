import PlainTables.NamePattern.Program
import PlainTables.Proofs.NamePattern.Taking

/-!
# Runs of a program

A run goes from step to step, some of which take a character, until it comes to the one that accepts. The
steps between two places of a program are linked by what a run takes on its way from one to the other.

The steps that are added for a pattern link their first place to the place behind them, and what they take is
what the pattern takes. Steps are added before those that they lead to, so that a program is built from its
end; only the step that repeats a pattern is put in before its body is known.
-/

namespace PlainTables.NamePattern

/-- A step leads to the place `next`, from a place in a text to the same or the following one. A place in a
text is given by the character before it and the text behind it. -/
inductive Step.Leads : Step → Option Char → List Char → Nat → Option Char → List Char → Prop
  | literal {c next before s} : Leads (.literal c next) before (c :: s) next (some c) s
  | oneOf {set c next before s} : set.contains c = true →
      Leads (.oneOf set next) before (c :: s) next (some c) s
  | look {a next before s} : a.holds before s.head? = true →
      Leads (.look a next) before s next before s
  | mark {name next before s} : Leads (.mark name next) before s next before s
  | preferred {preferred other before s} :
      Leads (.split preferred other) before s preferred before s
  | other {preferred other before s} : Leads (.split preferred other) before s other before s

inductive Ends (steps : Array Step) : Nat → Nat → Option Char → List Char → Prop
  | accept {place before s} : steps[place]? = some .accept → Ends steps 0 place before s
  | step {n place step next before s before' s'} : steps[place]? = some step →
      step.Leads before s next before' s' → Ends steps n next before' s' →
      Ends steps (n + 1) place before s

def CanEnd (steps : Array Step) (place : Nat) (before : Option Char) (s : List Char) : Prop :=
  ∃ n, Ends steps n place before s

section

variable {steps : Array Step} {place next : Nat} {before before' : Option Char} {s s' : List Char}

theorem canEnd_accept (accepts : steps[place]? = some .accept) : CanEnd steps place before s :=
  ⟨0, .accept accepts⟩

theorem CanEnd.step {step : Step} (found : steps[place]? = some step)
    (leads : step.Leads before s next before' s') (ends : CanEnd steps next before' s') :
    CanEnd steps place before s := by
  obtain ⟨n, ends⟩ := ends
  exact ⟨n + 1, .step found leads ends⟩

theorem Ends.of_step {n : Nat} {step : Step} (found : steps[place]? = some step)
    (goesOn : step ≠ .accept) (ends : Ends steps n place before s) :
    ∃ m next before' s', n = m + 1 ∧ step.Leads before s next before' s' ∧
      Ends steps m next before' s' := by
  cases ends with
  | accept accepts =>
    rw [found] at accepts
    exact absurd (Option.some.inj accepts) goesOn
  | step found' leads ends =>
    rw [found] at found'
    cases found'
    exact ⟨_, _, _, _, rfl, leads, ends⟩

end

/-- Runs from `start` come to `next` with what is taken, and from there they go on. No run to the end is
shorter than what is left of it. -/
structure Links (steps : Array Step) (taking : Taking) (start next : Nat) : Prop where
  sound : ∀ {n before s}, Ends steps n start before s → ∃ taken rest m, s = taken ++ rest ∧
    taking before taken rest ∧ m ≤ n ∧ Ends steps m next (behind before taken) rest
  complete : ∀ {before taken rest}, taking before taken rest →
    CanEnd steps next (behind before taken) rest → CanEnd steps start before (taken ++ rest)

namespace Links

variable {steps : Array Step} {P Q : Taking} {place start middle next body leave : Nat} {step : Step}

theorem nothing (place : Nat) : Links steps .nothing place place := by
  constructor
  · intro n before s ends
    exact ⟨[], s, n, rfl, rfl, Nat.le_refl n, ends⟩
  · rintro before _ rest rfl ends
    exact ends

theorem andThen (first : Links steps P start middle) (second : Links steps Q middle next) :
    Links steps (P.andThen Q) start next := by
  constructor
  · intro n before s ends
    obtain ⟨taken, rest, m, rfl, takesP, fewer, further⟩ := first.sound ends
    obtain ⟨taken', rest', m', rfl, takesQ, fewer', ends⟩ := second.sound further
    refine ⟨taken ++ taken', rest', m', (List.append_assoc ..).symm, ?_, Nat.le_trans fewer' fewer, ?_⟩
    · exact ⟨taken, taken', rfl, takesP, takesQ⟩
    · rw [behind_append]
      exact ends
  · rintro before _ rest ⟨taken, taken', rfl, takesP, takesQ⟩ ends
    rw [behind_append] at ends
    rw [List.append_assoc]
    exact first.complete takesP (second.complete takesQ ends)

theorem ofStep (found : steps[place]? = some step) (goesOn : step ≠ .accept)
    (takes : ∀ before s next' before' s', step.Leads before s next' before' s' ↔
      next' = next ∧ ∃ taken, s = taken ++ s' ∧ before' = behind before taken ∧ P before taken s') :
    Links steps P place next := by
  constructor
  · intro n before s ends
    obtain ⟨m, _, _, s', rfl, leads, ends⟩ := ends.of_step found goesOn
    obtain ⟨rfl, taken, rfl, rfl, taking⟩ := (takes ..).mp leads
    exact ⟨taken, s', m, rfl, taking, Nat.le_succ m, ends⟩
  · intro before taken rest taking ends
    exact ends.step found ((takes ..).mpr ⟨rfl, taken, rfl, rfl, taking⟩)

theorem literal {c : Char} (found : steps[place]? = some (.literal c next)) :
    Links steps (literal [c]).Takes place next := by
  apply ofStep found Step.noConfusion
  intro before s next' before' s'
  constructor
  · rintro ⟨⟩
    exact ⟨rfl, [c], rfl, rfl, rfl⟩
  · rintro ⟨rfl, _, rfl, rfl, rfl⟩
    exact .literal

theorem oneOf {set : CharSet} (found : steps[place]? = some (.oneOf set next)) :
    Links steps (oneOf set).Takes place next := by
  apply ofStep found Step.noConfusion
  intro before s next' before' s'
  constructor
  · rintro (_ | @⟨_, c, _, _, _, member⟩)
    exact ⟨rfl, [c], rfl, rfl, c, rfl, member⟩
  · rintro ⟨rfl, _, rfl, rfl, c, rfl, member⟩
    exact .oneOf member

theorem look {a : Assertion} (found : steps[place]? = some (.look a next)) :
    Links steps (look a).Takes place next := by
  apply ofStep found Step.noConfusion
  intro before s next' before' s'
  constructor
  · intro leads
    cases leads with
    | look holds => exact ⟨rfl, [], rfl, rfl, rfl, holds⟩
  · rintro ⟨rfl, _, rfl, rfl, rfl, holds⟩
    exact .look holds

theorem mark {name : Nat} (found : steps[place]? = some (.mark name next)) :
    Links steps .nothing place next := by
  apply ofStep found Step.noConfusion
  intro before s next' before' s'
  constructor
  · intro leads
    cases leads with
    | mark => exact ⟨rfl, [], rfl, rfl, rfl⟩
  · rintro ⟨rfl, _, rfl, rfl, rfl⟩
    exact .mark

theorem leads_branch {greedy : Bool} {before before' : Option Char} {s s' : List Char} :
    (branch greedy body leave).Leads before s next before' s' ↔
      (next = body ∨ next = leave) ∧ before' = before ∧ s' = s := by
  cases greedy with
  | true =>
    constructor
    · intro leads
      cases leads with
      | preferred => exact ⟨.inl rfl, rfl, rfl⟩
      | other => exact ⟨.inr rfl, rfl, rfl⟩
    · rintro ⟨rfl | rfl, rfl, rfl⟩
      · exact .preferred
      · exact .other
  | false =>
    constructor
    · intro leads
      cases leads with
      | preferred => exact ⟨.inr rfl, rfl, rfl⟩
      | other => exact ⟨.inl rfl, rfl, rfl⟩
    · rintro ⟨rfl | rfl, rfl, rfl⟩
      · exact .other
      · exact .preferred

theorem branch_ne_accept (greedy : Bool) (body leave : Nat) : branch greedy body leave ≠ .accept := by
  cases greedy <;> exact Step.noConfusion

theorem ofBranch {greedy : Bool} (found : steps[place]? = some (branch greedy body leave))
    (first : Links steps P body next) (second : Links steps Q leave next) :
    Links steps (P.either Q) place next := by
  constructor
  · intro n before s ends
    obtain ⟨m, _, _, _, rfl, leads, further⟩ := ends.of_step found (branch_ne_accept _ _ _)
    obtain ⟨rfl | rfl, rfl, rfl⟩ := leads_branch.mp leads
    · obtain ⟨taken, rest, k, same, takes, fewer, ends⟩ := first.sound further
      exact ⟨taken, rest, k, same, .inl takes, Nat.le_succ_of_le fewer, ends⟩
    · obtain ⟨taken, rest, k, same, takes, fewer, ends⟩ := second.sound further
      exact ⟨taken, rest, k, same, .inr takes, Nat.le_succ_of_le fewer, ends⟩
  · rintro before taken rest (takes | takes) ends
    · exact (first.complete takes ends).step found (leads_branch.mpr ⟨.inl rfl, rfl, rfl⟩)
    · exact (second.complete takes ends).step found (leads_branch.mpr ⟨.inr rfl, rfl, rfl⟩)

theorem ofSplit {preferred other : Nat} (found : steps[place]? = some (.split preferred other))
    (first : Links steps P preferred next) (second : Links steps Q other next) :
    Links steps (P.either Q) place next := by
  have branches : steps[place]? = some (branch true preferred other) := found
  exact ofBranch branches first second

/-- A branch whose body leads back to it takes what the body takes any number of times. -/
theorem loop {greedy : Bool} (found : steps[place]? = some (branch greedy body next))
    (round : Links steps P body place) : Links steps P.anyTimes place next := by
  constructor
  · -- The run that is left after a round is shorter.
    intro n
    induction n using Nat.strongRecOn with
    | ind n ih =>
      intro before s ends
      obtain ⟨m, _, _, _, rfl, leads, further⟩ := ends.of_step found (branch_ne_accept _ _ _)
      obtain ⟨rfl | rfl, rfl, rfl⟩ := leads_branch.mp leads
      · obtain ⟨taken, rest, k, rfl, takes, fewer, ends⟩ := round.sound further
        obtain ⟨taken', rest', k', rfl, ⟨times, takes'⟩, fewer', ends⟩ :=
          ih k (Nat.lt_succ_of_le fewer) ends
        refine ⟨taken ++ taken', rest', k', (List.append_assoc ..).symm, ?_, ?_, ?_⟩
        · exact ⟨times + 1, taken, taken', rfl, takes, takes'⟩
        · exact Nat.le_succ_of_le (Nat.le_trans fewer' fewer)
        · rw [behind_append]
          exact ends
      · exact ⟨[], _, m, rfl, ⟨0, rfl⟩, Nat.le_succ m, further⟩
  · rintro before taken rest ⟨times, takes⟩ ends
    induction times generalizing before taken with
    | zero =>
      obtain rfl := takes
      exact ends.step found (leads_branch.mpr ⟨.inr rfl, rfl, rfl⟩)
    | succ times ih =>
      obtain ⟨first, others, rfl, takesFirst, takesOthers⟩ := takes
      rw [behind_append] at ends
      rw [List.append_assoc]
      have again := round.complete takesFirst (ih takesOthers ends)
      exact again.step found (leads_branch.mpr ⟨.inl rfl, rfl, rfl⟩)

end Links

def Holds (program : Array Step) (first : Nat) (steps : Array Step) : Prop :=
  ∀ place, first ≤ place → place < steps.size → program[place]? = steps[place]?

/-- Steps have been added to others, with the first place of what they are for. In every program that has
them they link it to the place `next`. -/
structure Emits (taking : Taking) (next : Nat) (steps : Array Step) (added : Nat × Array Step) :
    Prop where
  size_le : steps.size ≤ added.2.size
  kept : ∀ place < steps.size, added.2[place]? = steps[place]?
  links : ∀ program, Holds program steps.size added.2 → Links program taking added.1 next

variable {P Q : Taking} {next : Nat} {steps program : Array Step} {added added' : Nat × Array Step}

theorem getElem?_emit_of_lt {step : Step} {place : Nat} (within : place < steps.size) :
    (emit step steps).2[place]? = steps[place]? :=
  Array.getElem?_push_lt within |>.trans (Array.getElem?_eq_getElem within).symm

theorem size_emit (step : Step) (steps : Array Step) : (emit step steps).2.size = steps.size + 1 :=
  Array.size_push step

theorem Holds.of_emit {step : Step} {first : Nat} (le : first ≤ steps.size)
    (holds : Holds program first (emit step steps).2) :
    program[steps.size]? = some step ∧ Holds program first steps := by
  constructor
  · rw [holds steps.size le (by rw [size_emit]; omega)]
    exact Array.getElem?_push_size
  · intro place from_ within
    rw [holds place from_ (by rw [size_emit]; omega), getElem?_emit_of_lt within]

namespace Emits

theorem nothing (next : Nat) (steps : Array Step) : Emits .nothing next steps (next, steps) where
  size_le := Nat.le_refl _
  kept _ _ := rfl
  links _ _ := .nothing next

theorem holds {first : Nat} {next : Nat} (emits : Emits P next added.2 added')
    (holds : Holds program first added'.2) : Holds program first added.2 := by
  intro place from_ within
  rw [holds place from_ (Nat.lt_of_lt_of_le within emits.size_le), emits.kept place within]

theorem andThen (second : Emits Q next steps added) (first : Emits P added.1 added.2 added') :
    Emits (P.andThen Q) next steps added' where
  size_le := Nat.le_trans second.size_le first.size_le
  kept place within := by
    rw [first.kept place (Nat.lt_of_lt_of_le within second.size_le), second.kept place within]
  links program holds := by
    apply (first.links program _).andThen (second.links program (first.holds holds))
    intro place from_ within
    exact holds place (Nat.le_trans second.size_le from_) within

theorem emit {step : Step} (emits : Emits P next steps added)
    (links : ∀ program, program[added.2.size]? = some step → Links program P added.1 next →
      Links program Q added.2.size next) :
    Emits Q next steps (emit step added.2) where
  size_le := by
    rw [size_emit]
    exact Nat.le_succ_of_le emits.size_le
  kept place within := by
    rw [getElem?_emit_of_lt (Nat.lt_of_lt_of_le within emits.size_le), emits.kept place within]
  links program holds := by
    obtain ⟨found, before⟩ := holds.of_emit emits.size_le
    exact links program found (emits.links program before)

theorem literal (s : List Char) (next : Nat) (steps : Array Step) :
    Emits (literal s).Takes next steps ((literal s).emitBefore next steps) := by
  induction s with
  | nil => exact nothing next steps
  | cons c s ih =>
    have parts : (NamePattern.literal (c :: s)).Takes =
        (NamePattern.literal [c]).Takes.andThen (NamePattern.literal s).Takes :=
      takes_literal_append [c] s
    rw [parts]
    apply ih.emit
    intro program found links
    exact (Links.literal found).andThen links

theorem choice (second : Emits Q next steps added) (first : Emits P next added.2 added') :
    Emits (P.either Q) next steps (NamePattern.emit (.split added'.1 added.1) added'.2) := by
  have size : steps.size ≤ added'.2.size := Nat.le_trans second.size_le first.size_le
  constructor
  · rw [size_emit]
    exact Nat.le_succ_of_le size
  · intro place within
    rw [getElem?_emit_of_lt (Nat.lt_of_lt_of_le within size),
      first.kept place (Nat.lt_of_lt_of_le within second.size_le), second.kept place within]
  · intro program holds
    obtain ⟨found, before⟩ := holds.of_emit size
    apply Links.ofSplit found (first.links program _) (second.links program (first.holds before))
    intro place from_ within
    exact before place (Nat.le_trans second.size_le from_) within

theorem optional (greedy : Bool) (emits : Emits P next steps added) :
    Emits (P.either .nothing) next steps
      (NamePattern.emit (branch greedy added.1 next) added.2) := by
  apply emits.emit
  intro program found links
  exact Links.ofBranch found links (.nothing next)

theorem repetition (next : Nat) (greedy : Bool)
    (round : Emits P steps.size (NamePattern.emit .accept steps).2 added) :
    let looped := added.2.setIfInBounds steps.size (branch greedy added.1 next)
    Emits P.anyTimes next steps (steps.size, looped) ∧
      Emits (P.andThen P.anyTimes) next steps (added.1, looped) := by
  intro looped
  have before : steps.size < added.2.size := by
    have size := round.size_le
    rw [size_emit] at size
    exact size
  have size : steps.size ≤ looped.size := by
    rw [Array.size_setIfInBounds]
    exact Nat.le_of_lt before
  have kept : ∀ place < steps.size, looped[place]? = steps[place]? := by
    intro place within
    rw [Array.getElem?_setIfInBounds_ne (Nat.ne_of_gt within),
      round.kept place (by rw [size_emit]; omega), getElem?_emit_of_lt within]
  have links (program : Array Step) (holds : Holds program steps.size looped) :
      Links program P.anyTimes steps.size next ∧ Links program P added.1 steps.size := by
    have found : program[steps.size]? = some (branch greedy added.1 next) := by
      rw [holds steps.size (Nat.le_refl _) (by rw [Array.size_setIfInBounds]; exact before)]
      exact Array.getElem?_setIfInBounds_self_of_lt before
    have body : Links program P added.1 steps.size := by
      apply round.links program
      intro place from_ within
      rw [size_emit] at from_
      rw [holds place (by omega) (by rw [Array.size_setIfInBounds]; exact within)]
      exact Array.getElem?_setIfInBounds_ne (by omega)
    exact ⟨.loop found body, body⟩
  constructor
  · exact ⟨size, kept, fun program holds => (links program holds).1⟩
  · refine ⟨size, kept, fun program holds => ?_⟩
    exact (links program holds).2.andThen (links program holds).1

theorem times {f : Nat × Array Step → Nat × Array Step}
    (each : ∀ place steps, Emits P place steps (f (place, steps)))
    (rest : Emits Q next steps added) (n : Nat) :
    Emits ((P.times n).andThen Q) next steps (Nat.repeat f n added) := by
  induction n with
  | zero =>
    rw [Taking.times, Taking.nothing_andThen]
    exact rest
  | succ n ih =>
    rw [Taking.times, Taking.andThen_assoc]
    exact ih.andThen (each _ _)

theorem upTo {f : Nat × Array Step → Nat × Array Step} (greedy : Bool)
    (each : ∀ place steps, Emits P place steps (f (place, steps))) (n : Nat) :
    Emits (P.upTo n) next steps (Nat.repeat (fun place =>
      NamePattern.emit (branch greedy (f place).1 next) (f place).2) n (next, steps)) := by
  induction n with
  | zero =>
    rw [Taking.upTo_zero]
    exact nothing next steps
  | succ n ih =>
    rw [Taking.upTo_succ]
    exact (ih.andThen (each _ _)).optional greedy

end Emits

theorem emits_emitBefore (p : NamePattern) (next : Nat) (steps : Array Step) :
    Emits p.Takes next steps (p.emitBefore next steps) := by
  induction p generalizing next steps with
  | empty => exact .nothing next steps
  | literal s => exact .literal s next steps
  | oneOf set =>
    apply (Emits.nothing next steps).emit
    intro program found _
    exact .oneOf found
  | look a =>
    apply (Emits.nothing next steps).emit
    intro program found _
    exact .look found
  | group i p ih =>
    have last : Emits .nothing next steps (emit (.mark (endMark i) next) steps) := by
      apply (Emits.nothing next steps).emit
      intro program found _
      exact .mark found
    have body := last.andThen (ih _ _)
    rw [Taking.andThen_nothing] at body
    apply body.emit
    intro program found links
    have marked := (Links.mark found).andThen links
    rw [Taking.nothing_andThen] at marked
    exact marked
  | sequence p q ihP ihQ => exact (ihQ next steps).andThen (ihP _ _)
  | choice p q ihP ihQ => exact (ihQ next steps).choice (ihP _ _)
  | repetition p least most greedy ih =>
    cases most with
    | some most => exact (Emits.upTo greedy ih (most - least)).times ih least
    | none =>
      obtain ⟨any, more⟩ := (ih steps.size (emit .accept steps).2).repetition next greedy
      simp only [emitBefore]
      split
      · next zero =>
        subst zero
        rw [Takes, Taking.times, Taking.nothing_andThen]
        split
        · exact any
        · rw [Taking.anyTimes_eq]
          exact more.optional greedy
      · next one =>
        have parts : (repetition p least none greedy).Takes =
            (p.Takes.times (least - 1)).andThen (p.Takes.andThen p.Takes.anyTimes) := by
          obtain ⟨n, rfl⟩ := Nat.exists_eq_succ_of_ne_zero one
          rw [Takes, Nat.succ_eq_add_one, Taking.times_add, Taking.andThen_assoc, Taking.times,
            Taking.times, Taking.andThen_nothing, Nat.add_sub_cancel]
        rw [parts]
        exact more.times ih (least - 1)

/-- A run of the program of a pattern comes to its end from those places at which the pattern takes a text. -/
theorem canEnd_program (p : NamePattern) {before : Option Char} {s : List Char} :
    CanEnd p.program.steps p.program.start before s ↔
      ∃ taken rest, s = taken ++ rest ∧ p.Takes before taken rest := by
  have emits := p.emits_emitBefore 0 #[.accept]
  have links : Links p.program.steps p.Takes p.program.start 0 := by
    apply emits.links
    intro place _ _
    rfl
  have accepts : p.program.steps[0]? = some .accept := emits.kept 0 Nat.one_pos
  constructor
  · rintro ⟨n, ends⟩
    obtain ⟨taken, rest, m, same, takes, -, -⟩ := links.sound ends
    exact ⟨taken, rest, same, takes⟩
  · rintro ⟨taken, rest, rfl, takes⟩
    exact links.complete takes (canEnd_accept accepts)

end PlainTables.NamePattern
