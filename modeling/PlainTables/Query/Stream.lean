import PlainTables.Query.Scan

/-!
# Streamed results

A result without groups and order is produced row by row. DISTINCT, OFFSET and LIMIT are kept track of
by the rows seen and by two counts. The table is closed as soon as there are no more rows.
-/

namespace PlainTables

/-- A result that is being produced. `seen` holds the rows produced so far if they have to differ. -/
structure ResultStream (σ : Type) where
  plan : Plan
  scan : Scan σ
  seen : Option (List (List Value))
  toSkip : Nat
  toGive : Option Nat
  current : Option (List Value) := none
  finished : Bool := false

namespace ResultStream

variable {σ : Type} [RecordSource σ]

def start (plan : Plan) (source : σ) : ResultStream σ where
  plan
  scan := ⟨source, none⟩
  seen := if plan.statement.distinct then some [] else none
  toSkip := plan.offset
  toGive := plan.limit

/-- The next row of the result, looked for in as many rows of the table as the count. -/
def pullWithin : Nat → ResultStream σ → Except QueryError (Option (List Value)) × ResultStream σ
  | 0, r => (.ok none, r)
  | fuel + 1, r =>
    if r.toGive = some 0 then (.ok none, r)
    else
      match r.scan.nextRow r.plan with
      | (.error e, scan) => (.error e, { r with scan })
      | (.ok none, scan) => (.ok none, { r with scan })
      | (.ok (some row), scan) =>
        let r := { r with scan }
        match r.plan.project row with
        | .error e => (.error e, r)
        | .ok values =>
          if r.seen.any (·.contains values) then pullWithin fuel r
          else
            let r := { r with seen := r.seen.map (values :: ·) }
            if 0 < r.toSkip then pullWithin fuel { r with toSkip := r.toSkip - 1 }
            else (.ok (some values), { r with toGive := r.toGive.map (· - 1) })

def pull (r : ResultStream σ) : Except QueryError (Option (List Value)) × ResultStream σ :=
  pullWithin (RecordSource.remaining r.scan.source + 1) r

/-- Closes the table, once. -/
def finish (r : ResultStream σ) : ResultStream σ :=
  if r.finished then { r with current := none }
  else
    { r with
      scan := { r.scan with source := RecordSource.close r.scan.source }
      current := none
      finished := true }

/-- Goes on to the next row. The end of the result and an error finish it. -/
def advance (r : ResultStream σ) : Except QueryError Bool × ResultStream σ :=
  if r.finished then (.ok false, r)
  else
    match r.pull with
    | (.ok (some values), r) => (.ok true, { r with current := some values })
    | (.ok none, r) => (.ok false, r.finish)
    | (.error e, r) => (.error e, r.finish)

end ResultStream

end PlainTables
