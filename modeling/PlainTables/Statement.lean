import PlainTables.Value

/-!
# Statements

The SELECT statements of the query language: expressions, conditions and clauses. Column names of a
parsed statement carry no qualifier that names the statement's own table.
-/

namespace PlainTables

inductive Aggregate where
  | count
  | sum
  | avg
  | min
  | max
deriving DecidableEq

/-- An operand of a select list or condition. -/
inductive Expression where
  | wildcard
  | column (qualifier : Option String) (name : String)
  | literal (value : Value)
  | add (left right : Expression)
  | countRows
  | aggregate (function : Aggregate) (argument : Expression)
deriving DecidableEq

inductive Comparison where
  | eq
  | ne
  | lt
  | gt
  | le
  | ge
deriving DecidableEq

inductive Condition where
  | compare (operator : Comparison) (left right : Expression)
  | between (operand low high : Expression)
  | like (operand : Expression) (pattern : String)
  | isNull (operand : Expression)
  | not (condition : Condition)
  | and (left right : Condition)
  | or (left right : Condition)
deriving DecidableEq

structure OutputColumn where
  expression : Expression
  alias? : Option String := none
deriving DecidableEq

structure NamedTable where
  name : String
  alias? : Option String := none
deriving DecidableEq

inductive SortOrder where
  | ascending
  | descending
deriving DecidableEq

structure OrderItem where
  expression : Expression
  order : SortOrder := .ascending
deriving DecidableEq

structure Statement where
  distinct : Bool := false
  columns : List OutputColumn
  from? : Option NamedTable := none
  filter : Option Condition := none
  groupBy : List Expression := []
  having : Option Condition := none
  orderBy : List OrderItem := []
  limit : Option UInt64 := none
  offset : Option UInt64 := none
deriving DecidableEq

namespace Expression

/-- The expression is computed over the rows of a group. -/
def containsAggregate : Expression → Bool
  | countRows | aggregate .. => true
  | add l r => l.containsAggregate || r.containsAggregate
  | _ => false

/-- The column names in an expression, with or without those that are aggregated over. -/
def columnNames (intoAggregates : Bool) : Expression → List String
  | column _ name => [name]
  | add l r => l.columnNames intoAggregates ++ r.columnNames intoAggregates
  | aggregate _ argument => if intoAggregates then argument.columnNames true else []
  | _ => []

end Expression

namespace Statement

/-- The rows are partitioned into groups, by GROUP BY or into the single group of the whole table. -/
def isGrouped (s : Statement) : Bool :=
  !s.groupBy.isEmpty || s.having.isSome || s.columns.any (·.expression.containsAggregate)

end Statement

end PlainTables
