import PlainTables.Evaluation.Aggregate
import PlainTables.Row
import PlainTables.Statement.Notation

/-!
# Evaluation of expressions

An expression is evaluated in a scope, which gives names their values: a row, a row with the
names of the select list, or a group of rows over which aggregates are computed.
-/

namespace PlainTables

/-- What expressions refer to. Only a group has rows to aggregate. -/
structure Scope where
  lookup : String → Option Value
  group : Option (List Row) := none

namespace Scope

def ofRow (r : Row) : Scope where
  lookup := r.get?

end Scope

/-- The value of an expression. The operands of a sum are evaluated from the left. -/
def Expression.evaluate (scope : Scope) (e : Expression) : Except QueryError Value :=
  match e with
  | wildcard => .error (.unsupportedFeature .misplacedWildcard)
  | column _ name =>
    match scope.lookup name with
    | some v => .ok v
    | none => .error (.unknownColumn name)
  | literal v => .ok v
  | add l r => do
    let x ← l.evaluate scope
    let y ← r.evaluate scope
    x.add y
  | countRows =>
    match scope.group with
    | some rows => .ok (.integer (Int64.ofNat rows.length))
    | none => .error (.unsupportedFeature (.aggregateOutsideGroup countRows.text))
  | aggregate f argument =>
    let label := (aggregate f argument).text
    match scope.group with
    | some rows => do
      let vs ← rows.mapM fun r => argument.evaluate (.ofRow r)
      f.apply label (vs.filter (!·.isNull))
    | none => .error (.unsupportedFeature (.aggregateOutsideGroup label))

namespace OutputColumn

def isNamed (c : OutputColumn) (name : String) : Bool :=
  c.alias?.any fun own => Text.sameName own name

end OutputColumn

namespace Scope

/-- A row of the table in which names of the select list stand for their expressions. -/
def ofAliasedRow (columns : List OutputColumn) (r : Row) : Scope where
  lookup name :=
    match r.get? name with
    | some v => some v
    | none =>
      match columns.find? (·.isNamed name) with
      | some c =>
        if c.expression.containsAggregate then none
        else (c.expression.evaluate (.ofRow r)).toOption
      | none => none

/-- A group of rows. Names stand for columns of the first row, then for outputs of the group. -/
def ofGroup (columns : List OutputColumn) (outputs : List Value) (rows : List Row) :
    Scope where
  lookup name :=
    match rows.head?.bind (·.get? name) with
    | some v => some v
    | none => (columns.findIdx? (·.isNamed name)).bind fun i => outputs[i]?
  group := some rows

end Scope

end PlainTables
