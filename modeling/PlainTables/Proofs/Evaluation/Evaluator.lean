import PlainTables.Evaluation.Evaluator
import PlainTables.Proofs.Evaluation.Like

/-!
# What evaluators have kept

An evaluator keeps a program only with the pattern it has been made for. So whatever has been evaluated
before, a condition has the result that it has without an evaluator.
-/

namespace PlainTables

namespace Evaluator

def Sound (evaluator : Evaluator) : Prop :=
  ∀ kept ∈ evaluator.programs, Like.program kept.1 = .ok kept.2

/-- The computation has this result with every sound evaluator, and leaves it sound. -/
def Computes {α : Type} (m : Run α) (result : Except QueryError α) : Prop :=
  ∀ evaluator : Evaluator, evaluator.Sound →
    (m.run.run evaluator).1 = result ∧ (m.run.run evaluator).2.Sound

section

variable {α β : Type}

theorem computes_pure (a : α) : Computes (pure a) (.ok a) :=
  fun _ sound => ⟨rfl, sound⟩

theorem computes_lift (x : Except QueryError α) : Computes (liftM x) x :=
  fun _ sound => ⟨rfl, sound⟩

theorem run_bind (m : Run α) (f : α → Run β) (evaluator : Evaluator) :
    (m >>= f).run.run evaluator =
      ExceptT.bindCont f (m.run.run evaluator).1 (m.run.run evaluator).2 :=
  rfl

theorem Computes.bind {m : Run α} {f : α → Run β} {x : Except QueryError α}
    {y : α → Except QueryError β} (first : Computes m x) (next : ∀ a, Computes (f a) (y a)) :
    Computes (m >>= f) (x >>= y) := by
  intro evaluator sound
  obtain ⟨same, sound⟩ := first evaluator sound
  rw [run_bind, same]
  cases x with
  | ok a => exact next a _ sound
  | error err => exact ⟨rfl, sound⟩

theorem sound_nothing : Sound {} := by
  intro kept hkept
  cases hkept

theorem computes_newProgram (pattern : String) :
    Computes (newProgram pattern) (Like.program pattern) := by
  intro evaluator sound
  cases made : Like.program pattern with
  | error err =>
    have run : (newProgram pattern).run.run evaluator = (.error err, evaluator) := by
      rw [newProgram, made]
      rfl
    rw [run]
    exact ⟨rfl, sound⟩
  | ok program =>
    have run : (newProgram pattern).run.run evaluator =
        (.ok program, ⟨(pattern, program) :: evaluator.programs⟩) := by
      rw [newProgram, made]
      rfl
    rw [run]
    refine ⟨rfl, ?_⟩
    intro kept hkept
    cases hkept with
    | head => exact made
    | tail _ hkept => exact sound kept hkept

theorem run_program (pattern : String) (evaluator : Evaluator) :
    (program pattern).run.run evaluator =
      ((match evaluator.programs.lookup pattern with
        | some program => pure program
        | none => newProgram pattern : Run NamePattern.Program)).run.run evaluator := by
  rw [program, run_bind]
  rfl

theorem computes_program (pattern : String) : Computes (program pattern) (Like.program pattern) := by
  intro evaluator sound
  rw [run_program]
  cases found : evaluator.programs.lookup pattern with
  | some program =>
    have made : Like.program pattern = .ok program := by
      obtain ⟨_, _, same, _⟩ := List.lookup_eq_some_iff.mp found
      apply sound (pattern, program)
      simp [same]
    rw [made]
    exact computes_pure program evaluator sound
  | none => exact computes_newProgram pattern evaluator sound

end

theorem computes_truth (scope : Scope) (c : Condition) :
    Computes (c.truth program scope) (c.evaluate scope) := by
  induction c with
  | compare op l r =>
    apply (computes_lift (l.operand scope)).bind
    intro x
    apply (computes_lift (r.operand scope)).bind
    intro y
    exact computes_pure _
  | between e low high =>
    apply (computes_lift (e.operand scope)).bind
    intro x
    apply (computes_lift (low.operand scope)).bind
    intro l
    apply (computes_lift (high.operand scope)).bind
    intro h
    exact computes_pure _
  | like e pattern =>
    apply (computes_lift (e.operand scope)).bind
    intro x
    cases x with
    | none => exact computes_pure false
    | some v => exact (computes_program pattern).bind fun _ => computes_pure _
  | isNull e =>
    apply (computes_lift (e.operand scope)).bind
    intro x
    exact computes_pure _
  | not c ih => exact ih.bind fun b => computes_pure (!b)
  | and l r left right =>
    apply left.bind
    intro b
    cases b with
    | true => exact right
    | false => exact computes_pure false
  | or l r left right =>
    apply left.bind
    intro b
    cases b with
    | true => exact computes_pure true
    | false => exact right

def after (steps : List (Scope × Condition)) : Evaluator :=
  steps.foldl (fun evaluator step => (evaluator.evaluate step.1 step.2).2) {}

theorem Sound.evaluate {evaluator : Evaluator} (sound : evaluator.Sound) (scope : Scope) (c : Condition) :
    (evaluator.evaluate scope c).2.Sound :=
  (computes_truth scope c evaluator sound).2

theorem sound_after (steps : List (Scope × Condition)) : (after steps).Sound := by
  apply List.foldlRecOn (motive := Sound) steps
  · exact sound_nothing
  · intro evaluator sound step _
    exact sound.evaluate step.1 step.2

/-- Whatever has been evaluated before, a condition has the result that it has without an evaluator. -/
theorem evaluate_after (steps : List (Scope × Condition)) (scope : Scope) (c : Condition) :
    ((after steps).evaluate scope c).1 = c.evaluate scope :=
  (computes_truth scope c _ (sound_after steps)).1

/-- Whatever has been evaluated before, LIKE holds if and only if the text of the value can be split along the
pattern. -/
theorem like_iff_splitsAlong {scope : Scope} {e : Expression} {v : Value} (pattern : String)
    (operand : e.operand scope = .ok (some v)) (fits : (Like.expression pattern).fitsStorage = true) :
    ∃ b, (b = true ↔ Like.SplitsAlong pattern.toList v.display.toList) ∧
      ∀ steps, ((after steps).evaluate scope (.like e pattern)).1 = .ok b := by
  refine ⟨_, Like.captures?_expression pattern v.display, ?_⟩
  intro steps
  have made : Like.program pattern = .ok (Like.expression pattern).program := by
    rw [Like.program_eq, if_pos fits]
  rw [evaluate_after, Condition.evaluate, Condition.truth, operand, made]
  rfl

/-- A text of two lines with characters that have a meaning in regular expressions. -/
theorem like_iff_splitsAlong_on_lines :
    let scope : Scope := { lookup := fun _ => some (.text "a.b (c)\nd+") }
    let note := Expression.column none "NOTE"
    (note.operand scope = .ok (some (.text "a.b (c)\nd+")) ∧
      (Like.expression "a._ (%+").fitsStorage = true ∧ (Like.expression "a_b.%").fitsStorage = true) ∧
    (∀ steps, ((after steps).evaluate scope (.like note "a._ (%+")).1 = .ok true) ∧
      ∀ steps, ((after steps).evaluate scope (.like note "a_b.%")).1 = .ok false := by
  intro scope note
  have operand : note.operand scope = .ok (some (.text "a.b (c)\nd+")) := by decide
  have fits : (Like.expression "a._ (%+").fitsStorage = true := Like.fitsStorage_of_length_le (by decide)
  have fits' : (Like.expression "a_b.%").fitsStorage = true := Like.fitsStorage_of_length_le (by decide)
  refine ⟨⟨operand, fits, fits'⟩, ?_, ?_⟩
  · obtain ⟨b, splits, same⟩ := like_iff_splitsAlong "a._ (%+" operand fits
    have parts : Like.SplitsAlong "a._ (%+".toList "a.b (c)\nd+".toList := by
      refine ⟨[['a'], ['.'], ['b'], [' '], ['('], "c)\nd".toList, ['+']], ?_, by decide⟩
      have itself {c : Char} (plain : c ≠ '%' ∧ c ≠ '_') : Like.StandsFor c [c] := .itself plain.1 plain.2
      exact .cons (itself (by decide)) (.cons (itself (by decide)) (.cons (.one 'b')
        (.cons (itself (by decide)) (.cons (itself (by decide)) (.cons (.run _)
          (.cons (itself (by decide)) .nil))))))
    obtain rfl : b = true := splits.mpr parts
    exact same
  · obtain ⟨b, splits, same⟩ := like_iff_splitsAlong "a_b.%" operand fits'
    have : ¬ Like.SplitsAlong "a_b.%".toList "a.b (c)\nd+".toList := by
      rw [← Like.captures?_expression]
      decide +kernel
    obtain rfl : b = false := Bool.eq_false_iff.mpr fun holds => this (splits.mp holds)
    exact same

end Evaluator

end PlainTables
