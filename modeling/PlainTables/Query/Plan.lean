import PlainTables.Coercion
import PlainTables.Evaluation.Condition

/-!
# Plans

A plan is a statement that has been checked against the columns of its table, with `*` replaced by
these columns. Every name that a statement needs is known before the first record is read.
-/

namespace PlainTables

structure QueryOptions where
  /-- The declared types of the first columns; the types of the others are found. -/
  declared : List DataType := []
  formats : Formats := {}
  /-- The whole result is kept, so that a cursor can move backwards. -/
  scrollable : Bool := false

structure Plan where
  statement : Statement
  source : Columns
  options : QueryOptions

namespace Plan

/-- The select list, where `*` stands for the columns of the table. -/
def expand (source : Columns) (c : OutputColumn) : List OutputColumn :=
  match c.expression with
  | .wildcard => source.names.map fun name => ⟨.column none name, none⟩
  | _ => [c]

def columns (p : Plan) : List OutputColumn :=
  p.statement.columns.flatMap (expand p.source)

def output (p : Plan) : Columns :=
  ⟨p.columns.map OutputColumn.name⟩

def isKnown (p : Plan) (name : String) : Bool :=
  (p.source.position? name).isSome

def isAlias (p : Plan) (name : String) : Bool :=
  p.columns.any (·.isNamed name)

def checkColumns (p : Plan) : Except QueryError Unit :=
  let names := p.columns.flatMap fun c => c.expression.columnNames true
  match names.find? (!p.isKnown ·) with
  | some name => .error (.unknownColumn name)
  | none => .ok ()

/-- What is grouped by are columns of the table or of the result. -/
def checkGroupBy (p : Plan) : Except QueryError Unit :=
  let names := p.statement.groupBy.flatMap (·.columnNames true)
  match names.find? fun name => !p.isKnown name && !p.isAlias name with
  | some name => .error (.unknownColumn name)
  | none => .ok ()

/-- A single group for the whole table has no values of plain columns. -/
def checkAggregates (p : Plan) : Except QueryError Unit :=
  if p.statement.isGrouped && p.statement.groupBy.isEmpty then
    match p.columns.flatMap fun c => c.expression.columnNames false with
    | name :: _ => .error (.unsupportedFeature (.ungroupedColumn name))
    | [] => .ok ()
  else .ok ()

/-- What is ordered by is a place or name in the result, or, without groups, a column of the table. -/
def checkOrder (p : Plan) (item : OrderItem) : Except QueryError Unit :=
  match item.expression with
  | .literal (.integer n) =>
    if n.toInt < 1 ∨ p.output.size < n.toInt then .error (.unknownColumn (toString n.toInt))
    else .ok ()
  | .column _ name =>
    if (p.output.position? name).isSome then .ok ()
    else if p.statement.isGrouped || !p.isKnown name then .error (.unknownColumn name)
    else .ok ()
  | _ => .ok ()

def validate (p : Plan) : Except QueryError Unit := do
  p.checkColumns
  p.checkGroupBy
  p.checkAggregates
  p.statement.orderBy.forM p.checkOrder

def make (statement : Statement) (names : List String) (options : QueryOptions) :
    Except QueryError Plan :=
  let p : Plan := ⟨statement, ⟨names⟩, options⟩
  match p.validate with
  | .ok () => .ok p
  | .error e => .error e

def isStreamable (p : Plan) : Bool :=
  !p.statement.isGrouped && p.statement.orderBy.isEmpty

def offset (p : Plan) : Nat :=
  (p.statement.offset.map UInt64.toNat).getD 0

def limit (p : Plan) : Option Nat :=
  p.statement.limit.map UInt64.toNat

def passes (p : Plan) (r : Row) : Except QueryError Bool :=
  match p.statement.filter with
  | some c => c.evaluate (.ofAliasedRow p.columns r)
  | none => .ok true

def project (p : Plan) (r : Row) : Except QueryError (List Value) :=
  p.columns.mapM fun c => c.expression.evaluate (.ofRow r)

/-- The value of an item of ORDER BY: one of the result's values by its place or name, or the value
of its expression. -/
def sortKey (p : Plan) (values : List Value) (scope : Scope) (item : OrderItem) :
    Except QueryError Value :=
  match item.expression with
  | .literal (.integer n) => .ok (values.getD (n.toInt.toNat - 1) .null)
  | .column q name =>
    match p.output.position? name with
    | some i => .ok (values.getD i .null)
    | none => (Expression.column q name).evaluate scope
  | e => e.evaluate scope

def sortKeys (p : Plan) (values : List Value) (scope : Scope) : Except QueryError (List Value) :=
  p.statement.orderBy.mapM (p.sortKey values scope)

end Plan

end PlainTables
