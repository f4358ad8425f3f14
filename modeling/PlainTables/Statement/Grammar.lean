import PlainTables.Statement.Lexis

/-!
# The grammar of statements

One reader for each form of the language. Expressions and conditions nest by parentheses; how deep is
bounded by the length of the text, so that the readers are structural in a depth that always suffices.
-/

namespace PlainTables.Grammar

open Reader Lexis

/-- A column name, of which the first of several dotted parts is the qualifier. -/
def columnRef : Reader Expression := do
  let first ← identifier
  match ← many (do char '.'; identifier) with
  | [] => return .column none first
  | rest => return .column (some first) (".".intercalate rest)

def argument : Reader Expression := do
  spaced (char '(')
  let e ← orElse (do return .literal (← literal)) columnRef
  spaced (char ')')
  return e

def countAggregate : Reader Expression := do
  tag "COUNT"
  spaces
  char '('
  let e ← orElse (do spaced (char '*'); return .countRows)
    (do return .aggregate .count (← spaced columnRef))
  char ')'
  return e

def namedAggregate (f : Aggregate) (name : String) : Reader Expression := do
  tag name
  return .aggregate f (← argument)

def aggregate : Reader Expression :=
  orElse countAggregate <|
  orElse (namedAggregate .sum "SUM") <|
  orElse (namedAggregate .avg "AVG") <|
  orElse (namedAggregate .min "MIN") (namedAggregate .max "MAX")

/-- Terms with `+` between them, added from the left. -/
def sumOf (term : Reader Expression) : Reader Expression := do
  let first ← term
  let rest ← many (do char '+'; term)
  return rest.foldl .add first

def term : Nat → Reader Expression
  | 0 => miss
  | depth + 1 => spaced <|
    orElse aggregate <|
    orElse (do return .literal (← literal)) <|
    orElse (do
      char '('
      let e ← sumOf (term depth)
      char ')'
      return e) columnRef

def expression : Reader Expression := fun s =>
  sumOf (term (s.length + 1)) s

def negatedIf (negated : Option Unit) (c : Condition) : Condition :=
  if negated.isSome then .not c else c

def notWord : Reader (Option Unit) := optional (spaced (keyword "NOT"))

def predicateTail (left : Expression) : Reader Condition :=
  orElse (do
    spaced (keyword "IS")
    let negated ← notWord
    spaced (keyword "NULL")
    return negatedIf negated (.isNull left)) <|
  orElse (do
    let negated ← notWord
    spaced (keyword "BETWEEN")
    let low ← expression
    spaced (keyword "AND")
    let high ← expression
    return negatedIf negated (.between left low high)) <|
  do
    let negated ← notWord
    spaced (keyword "LIKE")
    let pattern ← spaced textLiteral
    return negatedIf negated (.like left pattern)

/-- A comparison; on the right of `=` an unquoted text is tried first. -/
def comparisonTail (left : Expression) : Reader Condition := do
  match ← spaced comparison with
  | .eq =>
    let right ← orElse (do return .literal (← spaced bareText)) expression
    return .compare .eq left right
  | op => return .compare op left (← expression)

def predicate : Reader Condition := do
  let left ← expression
  orElse (predicateTail left) (comparisonTail left)

mutual

def disjunction : Nat → Reader Condition
  | 0 => miss
  | depth + 1 => do
    let first ← conjunction depth
    match ← optional (do spaced (keyword "OR"); disjunction depth) with
    | some right => return .or first right
    | none => return first

def conjunction : Nat → Reader Condition
  | 0 => miss
  | depth + 1 => do
    let first ← negation depth
    match ← optional (do spaced (keyword "AND"); conjunction depth) with
    | some right => return .and first right
    | none => return first

def negation : Nat → Reader Condition
  | 0 => miss
  | depth + 1 =>
    orElse (do
      spaced (keyword "NOT")
      return .not (← negation depth)) (primary depth)

def primary : Nat → Reader Condition
  | 0 => miss
  | depth + 1 =>
    orElse (do
      spaced (char '(')
      let c ← disjunction depth
      spaced (char ')')
      return c) predicate

end

/-- A condition; OR binds weaker than AND, and AND weaker than NOT. -/
def condition : Reader Condition := fun s =>
  disjunction (4 * s.length + 4) s

def newName : Reader (Option String) :=
  optional (do
    let _ ← optional (spaced (keyword "AS"))
    spaced identifier)

/-- A column of the select list. A sum needs a name of its own. -/
def outputColumn : Reader OutputColumn := fun s =>
  let column : Reader OutputColumn := do
    let e ← expression
    return ⟨e, ← newName⟩
  match column s with
  | .ok (⟨.add .., none⟩, _) => .error (.fatal s)
  | r => r

def selectList : Reader (List OutputColumn) :=
  orElse (do
    spaced (char '*')
    return [⟨.wildcard, none⟩]) <|
  separated (spaced (char ',')) outputColumn

def fromClause : Reader (Option NamedTable) :=
  optional (do
    spaced (keyword "FROM")
    let name ← spaced tableName
    return ⟨name, ← newName⟩)

def conditionClause (k : String) : Reader (Option Condition) :=
  optional (do
    spaced (keyword k)
    condition)

def groupByClause : Reader (List Expression) := do
  let items ← optional (do
    spaced (keyword "GROUP")
    spaced (keyword "BY")
    separated (spaced (char ',')) expression)
  return items.getD []

def orderItem : Reader OrderItem := do
  let e ← expression
  let order ← optional <|
    orElse (do spaced (keyword "ASC"); return SortOrder.ascending)
      (do spaced (keyword "DESC"); return SortOrder.descending)
  return ⟨e, order.getD .ascending⟩

def orderByClause : Reader (List OrderItem) := do
  let items ← optional (do
    spaced (keyword "ORDER")
    spaced (keyword "BY")
    separated (spaced (char ',')) orderItem)
  return items.getD []

def countClause (k : String) : Reader (Option UInt64) :=
  optional (do
    spaced (keyword k)
    spaced rowCount)

def statement : Reader Statement := do
  spaced (keyword "SELECT")
  let distinct ← optional (spaced (keyword "DISTINCT"))
  let columns ← selectList
  let from? ← fromClause
  let filter ← conditionClause "WHERE"
  let groupBy ← groupByClause
  let having ← conditionClause "HAVING"
  let orderBy ← orderByClause
  let limit ← countClause "LIMIT"
  let offset ← countClause "OFFSET"
  return { distinct := distinct.isSome, columns, from?, filter, groupBy, having, orderBy, limit,
           offset }

end PlainTables.Grammar
