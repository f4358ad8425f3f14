import PlainTables.Statement

/-!
# Aggregates

The aggregate functions on the values of their argument that are not null, in the order of the rows.
Sums stay integers until a double is among the values.
-/

namespace PlainTables.Aggregate

/-- The integers and the doubles summed so far; no double has been seen while there is no sum. -/
structure Total where
  integers : Int64 := 0
  doubles : Option Double := none
deriving DecidableEq

/-- Adds one value; `label` names the aggregate in errors. -/
def Total.add (label : String) (t : Total) (v : Value) : Except QueryError Total :=
  match v with
  | .integer i =>
    match Value.addInt64? t.integers i with
    | some s => .ok { t with integers := s }
    | none => .error (.type (.aggregateOverflow label))
  | v =>
    match v.asDouble? with
    | some d => .ok { t with doubles := some ((t.doubles.getD .zero).add d) }
    | none => .error (.type (.notNumeric label v.display))

def Total.value (t : Total) : Value :=
  match t.doubles with
  | some d => .double (d.add (Double.ofInt t.integers.toInt))
  | none => .integer t.integers

/-- The sum; `null` if there is nothing to add. -/
def sumOf (label : String) (vs : List Value) : Except QueryError Value :=
  if vs.isEmpty then .ok .null
  else (vs.foldlM (Total.add label) {}).map Total.value

def meanOf (label : String) (vs : List Value) : Except QueryError Value := do
  let total ← sumOf label vs
  match total.asDouble? with
  | some d => return .double (d.div (Double.ofInt vs.length))
  | none => return .null

/-- The first value that no later one is beyond in the wanted direction. -/
def extremeOf (wanted : Ordering) (vs : List Value) : Value :=
  let better (best : Option Value) (v : Value) : Option Value :=
    match best with
    | some current => if v.compare? current = some wanted then some v else some current
    | none => some v
  (vs.foldl better none).getD .null

/-- The aggregate of the values that are not null. -/
def apply (f : Aggregate) (label : String) (vs : List Value) : Except QueryError Value :=
  match f with
  | count => .ok (.integer (Int64.ofNat vs.length))
  | sum => sumOf label vs
  | avg => meanOf label vs
  | min => .ok (extremeOf .lt vs)
  | max => .ok (extremeOf .gt vs)

end PlainTables.Aggregate
