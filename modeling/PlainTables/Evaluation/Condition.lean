import PlainTables.Evaluation.Scope
import PlainTables.NamePattern.Parse
import PlainTables.NamePattern.Program

/-!
# Evaluation of conditions

A comparison with `null` or with a name that nothing has is false; other errors of an operand are
errors of the condition. In a pattern of LIKE `%` stands for any run of characters, `_` for any one
character, and every other character for itself; it is read as a regular expression and matched by the
program of it.
-/

namespace PlainTables

namespace Like

def signText (c : Char) : String :=
  if c = '%' then ".*"
  else if c = '_' then "."
  else NamePattern.escaped (String.singleton c)

/-- The regular expression of a pattern. It matches whole texts, and a point in it stands for the end of a line,
too. -/
def expressionText (pattern : String) : String :=
  "(?s)^" ++ String.join (pattern.toList.map signText) ++ "$"

/-- The program of a pattern, which may not take more storage than there is for a regular expression. -/
def program (pattern : String) : Except QueryError NamePattern.Program :=
  match NamePattern.parse? (expressionText pattern) with
  | some expression => .ok expression.program
  | none => .error (.type (.patternTooLarge NamePattern.storageLimit))

end Like

def Comparison.holds : Comparison → Ordering → Bool
  | eq, o => o.isEq
  | ne, o => o.isNe
  | lt, o => o.isLT
  | gt, o => o.isGT
  | le, o => o.isLE
  | ge, o => o.isGE

/-- The value of an operand; none if it is `null` or an unknown name. -/
def Expression.operand (scope : Scope) (e : Expression) : Except QueryError (Option Value) :=
  match e.evaluate scope with
  | .ok .null => .ok none
  | .ok v => .ok (some v)
  | .error (.unknownColumn _) => .ok none
  | .error err => .error err

/-- The comparison of two operands, false without both. -/
def Comparison.compare (op : Comparison) : Option Value → Option Value → Bool
  | some l, some r => (l.compare? r).any op.holds
  | _, _ => false

namespace Condition

/-- The truth of a condition, for which programs of patterns are asked where LIKE comes to them. The right side
of AND and OR is evaluated only if it matters. -/
def truth {m : Type → Type} [Monad m] [MonadLiftT (Except QueryError) m]
    (program : String → m NamePattern.Program) (scope : Scope) : Condition → m Bool
  | compare op l r => do
    let x ← l.operand scope
    let y ← r.operand scope
    return op.compare x y
  | between e low high => do
    let x ← e.operand scope
    let l ← low.operand scope
    let h ← high.operand scope
    return l.isSome && h.isSome && Comparison.ge.compare x l && Comparison.le.compare x h
  | like e pattern => do
    match ← e.operand scope with
    | none => return false
    | some v =>
      let p ← program pattern
      return (p.captures? v.display).isSome
  | isNull e => do
    let x ← e.operand scope
    return x.isNone
  | not c => do
    let b ← c.truth program scope
    return !b
  | and l r => do
    let b ← l.truth program scope
    if b then r.truth program scope else return false
  | or l r => do
    let b ← l.truth program scope
    if b then return true else r.truth program scope

/-- The truth of a condition. Every program is made anew. -/
def evaluate (scope : Scope) (c : Condition) : Except QueryError Bool :=
  c.truth Like.program scope

end Condition

end PlainTables
