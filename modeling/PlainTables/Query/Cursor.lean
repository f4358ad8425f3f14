import PlainTables.Query.Result
import PlainTables.Query.Stream

/-!
# Cursors

A cursor stands on a row of a result. One over a streamed result moves forward only. One over a whole
result can be moved anywhere: position zero is before the first row, and the rows are counted from
one.
-/

namespace PlainTables

/-- Where the rows of a cursor come from. A whole result keeps the closed table that it was read
from. -/
inductive CursorState (σ : Type) where
  | streaming (stream : ResultStream σ)
  | buffered (rows : List (List Value)) (position : Nat) (source : σ)

structure Cursor (σ : Type) where
  columns : Columns
  state : CursorState σ
  closed : Bool := false

namespace Cursor

variable {σ : Type} [RecordSource σ]

def isScrollable (c : Cursor σ) : Bool :=
  match c.state with
  | .buffered .. => true
  | .streaming _ => false

/-- The table that the cursor reads or has read. -/
def source (c : Cursor σ) : σ :=
  match c.state with
  | .streaming stream => stream.scan.source
  | .buffered _ _ source => source

def next (c : Cursor σ) : Except QueryError Bool × Cursor σ :=
  if c.closed then (.ok false, c)
  else
    match c.state with
    | .streaming stream =>
      let (result, stream) := stream.advance
      (result, { c with state := .streaming stream })
    | .buffered rows position source =>
      let position := if position ≤ rows.length then position + 1 else position
      (.ok (position ≤ rows.length), { c with state := .buffered rows position source })

def saturate (i : Int) : Int :=
  max Int64.minValue.toInt (min Int64.maxValue.toInt i)

def moveTo (c : Cursor σ) (target : Nat → Nat → Nat) : Except QueryError Bool × Cursor σ :=
  match c.state with
  | .streaming _ => (.error (.unsupportedFeature .forwardOnly), c)
  | .buffered rows position source =>
    if c.closed then (.error (.io .cursorClosed), c)
    else
      let position := target rows.length position
      (.ok (1 ≤ position && position ≤ rows.length),
        { c with state := .buffered rows position source })

def previous (c : Cursor σ) : Except QueryError Bool × Cursor σ :=
  c.moveTo fun _ position => position - 1

/-- Moves to a row by its number; a negative one counts back from the end. -/
def absolute (c : Cursor σ) (n : Int64) : Except QueryError Bool × Cursor σ :=
  c.moveTo fun size _ =>
    if 0 ≤ n.toInt then min n.toInt.toNat (size + 1)
    else (max 0 (saturate (size + 1 + n.toInt))).toNat

def relative (c : Cursor σ) (n : Int64) : Except QueryError Bool × Cursor σ :=
  c.moveTo fun size position =>
    (max 0 (min ((size : Int) + 1) (saturate (position + n.toInt)))).toNat

def first (c : Cursor σ) : Except QueryError Bool × Cursor σ :=
  c.absolute 1

def last (c : Cursor σ) : Except QueryError Bool × Cursor σ :=
  c.absolute (-1)

def beforeFirst (c : Cursor σ) : Except QueryError Unit × Cursor σ :=
  let (result, c) := c.moveTo fun _ _ => 0
  (result.map fun _ => (), c)

def afterLast (c : Cursor σ) : Except QueryError Unit × Cursor σ :=
  let (result, c) := c.moveTo fun size _ => size + 1
  (result.map fun _ => (), c)

/-- The number of the current row; zero if there is none or rows are not counted. -/
def rowNumber (c : Cursor σ) : Nat :=
  match c.state with
  | .buffered rows position _ => if position ≤ rows.length then position else 0
  | .streaming _ => 0

def currentRow (c : Cursor σ) : Option (List Value) :=
  if c.closed then none
  else
    match c.state with
    | .streaming stream => stream.current
    | .buffered rows position _ => if position = 0 then none else rows[position - 1]?

def valueAt (c : Cursor σ) (i : Nat) : Except QueryError Value :=
  match c.currentRow.bind (·[i]?) with
  | some v => .ok v
  | none => .error .noCurrentRow

def get (c : Cursor σ) (name : String) : Except QueryError Value :=
  match c.columns.position? name with
  | some i => c.valueAt i
  | none => .error (.unknownColumn name)

/-- The value of the current row in a column that is counted from one. -/
def getIndex (c : Cursor σ) (index : Nat) : Except QueryError Value :=
  if index = 0 ∨ c.columns.size < index then .error (.unknownColumn (toString index))
  else c.valueAt (index - 1)

def getString (c : Cursor σ) (name : String) : Except QueryError (Option String) := do
  match ← c.get name with
  | .null => return none
  | v => return some v.display

/-- A value as an integer; none for `null` and blank texts. -/
def getInt64 (c : Cursor σ) (name : String) : Except QueryError (Option Int64) := do
  match ← c.get name with
  | .null => return none
  | .integer i => return some i
  | .double d => return some d.toInt64
  | .text s =>
    let t := Text.trim s.toList
    if t.isEmpty then return none
    else
      match Numeral.readInt64? t with
      | some i => return some i
      | none => .error (.type (.notReadableAsInteger s name))
  | v => .error (.type (.notReadableAsInteger v.display name))

def getDouble (c : Cursor σ) (name : String) : Except QueryError (Option Double) := do
  let v ← c.get name
  let isBlank := match v with
    | .null => true
    | .text s => (Text.trim s.toList).isEmpty
    | _ => false
  if isBlank then return none
  else
    match v.asDouble? with
    | some d => return some d
    | none => .error (.type (.notReadableAsNumber v.display name))

def remaining (c : Cursor σ) : Nat :=
  match c.state with
  | .streaming stream => RecordSource.remaining stream.scan.source
  | .buffered rows .. => rows.length

/-- The rows that are left, as many as the count at most, and what stops them. -/
def fetchWithin : Nat → Cursor σ → (List (List Value) × Option QueryError) × Cursor σ
  | 0, c => (([], none), c)
  | fuel + 1, c =>
    match c.next with
    | (.error e, c) => (([], some e), c)
    | (.ok false, c) => (([], none), c)
    | (.ok true, c) =>
      let ((rows, failure), exhausted) := fetchWithin fuel c
      ((c.currentRow.toList ++ rows, failure), exhausted)

def fetch (c : Cursor σ) : (List (List Value) × Option QueryError) × Cursor σ :=
  c.fetchWithin (c.remaining + 1)

def fetchAll (c : Cursor σ) : Except QueryError (List (List Value)) × Cursor σ :=
  match c.fetch with
  | ((rows, none), c) => (.ok rows, c)
  | ((_, some e), c) => (.error e, c)

/-- Closes the cursor and its table. Closing again changes nothing. -/
def close (c : Cursor σ) : Cursor σ :=
  if c.closed then c
  else
    match c.state with
    | .streaming stream => { c with state := .streaming stream.finish, closed := true }
    | .buffered _ _ source => { c with state := .buffered [] 0 source, closed := true }

end Cursor

/-- An error that ended a query, and the table as it was left. -/
structure FailedQuery (σ : Type) where
  error : QueryError
  source : σ

variable {σ : Type} [RecordSource σ]

/-- Runs a statement over a table. The result is streamed if the statement allows it and it is not to
be scrolled; otherwise the table is closed before the cursor is there, and so it is on any error. -/
def Statement.run (s : Statement) (source : σ) (options : QueryOptions) :
    Except (FailedQuery σ) (Cursor σ) :=
  match Plan.make s (RecordSource.columns source) options with
  | .error e => .error ⟨e, RecordSource.close source⟩
  | .ok plan =>
    if plan.isStreamable && !options.scrollable then
      .ok { columns := plan.output, state := .streaming (.start plan source) }
    else
      match plan.result source with
      | (.error e, source) => .error ⟨e, RecordSource.close source⟩
      | (.ok rows, source) =>
        .ok { columns := plan.output, state := .buffered rows 0 (RecordSource.close source) }

end PlainTables
