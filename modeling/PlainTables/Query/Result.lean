import PlainTables.Query.Scan

/-!
# Whole results

A result with groups or order, or one that is to be scrolled, is computed as a whole: all rows are
read, grouped, made distinct and sorted, and then the rows that were asked for are taken.
-/

namespace PlainTables

structure ResultRow where
  values : List Value
  sortKeys : List Value
deriving DecidableEq

namespace ResultRow

/-- The order of two values of an item, where `null` comes first. -/
def compareKeys (left right : Value) : Ordering :=
  match left, right with
  | .null, .null => .eq
  | .null, _ => .lt
  | _, .null => .gt
  | l, r => (l.compare? r).getD .eq

def compare : List OrderItem → List Value → List Value → Ordering
  | item :: items, l :: ls, r :: rs =>
    let order := compareKeys l r
    let order := match item.order with
      | .ascending => order
      | .descending => order.swap
    order.then (compare items ls rs)
  | _, _, _ => .eq

/-- The rows whose values no earlier row has. -/
def distinct : List (List Value) → List ResultRow → List ResultRow
  | _, [] => []
  | seen, row :: rows =>
    if seen.contains row.values then distinct seen rows
    else row :: distinct (row.values :: seen) rows

end ResultRow

structure Group where
  key : List Value
  rows : List Row
deriving DecidableEq

namespace Group

def insert (key : List Value) (row : Row) : List Group → List Group
  | [] => [⟨key, [row]⟩]
  | g :: groups =>
    if g.key = key then { g with rows := g.rows ++ [row] } :: groups
    else g :: insert key row groups

/-- The groups of keyed rows, in the order in which their keys first appear. -/
def ofRows (rows : List (List Value × Row)) : List Group :=
  rows.foldl (fun groups (key, row) => insert key row groups) []

end Group

namespace Plan

def groupKey (p : Plan) (r : Row) : Except QueryError (List Value) :=
  p.statement.groupBy.mapM (·.evaluate (.ofAliasedRow p.columns r))

/-- The groups of the rows. Without GROUP BY there is one, even of no rows. -/
def groups (p : Plan) (rows : List (List Value × Row)) : List Group :=
  match Group.ofRows rows with
  | [] => if p.statement.groupBy.isEmpty then [⟨[], []⟩] else []
  | groups => groups

def groupRow (p : Plan) (g : Group) : Except QueryError (Option ResultRow) := do
  let values ← p.columns.mapM fun c => c.expression.evaluate (.ofGroup p.columns [] g.rows)
  let scope := Scope.ofGroup p.columns values g.rows
  let kept ← match p.statement.having with
    | some c => c.evaluate scope
    | none => pure true
  if kept then
    let keys ← p.sortKeys values scope
    return some ⟨values, keys⟩
  else return none

def plainRow (p : Plan) (r : Row) : Except QueryError ResultRow := do
  let values ← p.project r
  let keys ← p.sortKeys values (.ofAliasedRow p.columns r)
  return ⟨values, keys⟩

/-- Makes the rows distinct and sorts them as the statement asks, and takes those between OFFSET and
LIMIT. Rows that are equal in order stay in their order. -/
def arrange (p : Plan) (rows : List ResultRow) : List (List Value) :=
  let rows := if p.statement.distinct then ResultRow.distinct [] rows else rows
  let order := p.statement.orderBy
  let rows :=
    if order.isEmpty then rows
    else rows.mergeSort fun a b => ResultRow.compare order a.sortKeys b.sortKeys ≠ .gt
  let rows := rows.drop p.offset
  let rows := match p.limit with
    | some n => rows.take n
    | none => rows
  rows.map ResultRow.values

variable {σ : Type} [RecordSource σ]

/-- The rows of the result before they are arranged, and the table after reading it. -/
def resultRows (p : Plan) (source : σ) : Except QueryError (List ResultRow) × σ :=
  if p.statement.isGrouped then
    match Scan.collect p (fun r => (p.groupKey r).map fun key => (key, r)) ⟨source, none⟩ with
    | (.error e, scan) => (.error e, scan.source)
    | (.ok rows, scan) => (((p.groups rows).mapM p.groupRow).map (·.filterMap id), scan.source)
  else
    match Scan.collect p p.plainRow ⟨source, none⟩ with
    | (result, scan) => (result, scan.source)

def result (p : Plan) (source : σ) : Except QueryError (List (List Value)) × σ :=
  match p.resultRows source with
  | (.ok rows, source) => (.ok (p.arrange rows), source)
  | (.error e, source) => (.error e, source)

end Plan

end PlainTables
