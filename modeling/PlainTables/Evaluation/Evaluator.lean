import PlainTables.Evaluation.Condition

/-!
# Evaluators

An evaluator evaluates one condition after the other. The program of a pattern is made when the pattern is met
for the first time and kept from then on.
-/

namespace PlainTables

/-- The patterns that have been met, with their programs. -/
structure Evaluator where
  programs : List (String × NamePattern.Program) := []

namespace Evaluator

/-- What is computed with an evaluator, which is kept when the computation fails. -/
abbrev Run := ExceptT QueryError (StateM Evaluator)

def newProgram (pattern : String) : Run NamePattern.Program := do
  let program ← Like.program pattern
  modify fun evaluator => ⟨(pattern, program) :: evaluator.programs⟩
  return program

def program (pattern : String) : Run NamePattern.Program := do
  match (← get).programs.lookup pattern with
  | some program => return program
  | none => newProgram pattern

def evaluate (evaluator : Evaluator) (scope : Scope) (c : Condition) :
    Except QueryError Bool × Evaluator :=
  (c.truth program scope).run.run evaluator

end Evaluator

end PlainTables
