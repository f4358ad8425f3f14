import Mathlib.Algebra.Group.Nat.Defs
import PlainTables.Proofs.Query.Whole
import PlainTables.Records.Memory

/-!
# Positions

A cursor over a whole result stands at an integer between the place before the first row and the one
after the last row. Every move sets the integer or adds to it, and then cuts it off at these places;
neither the steps of natural numbers nor the saturation at the ends of the 64-bit range can be seen.
-/

namespace PlainTables

inductive Move where
  | next
  | previous
  | first
  | last
  | absolute (n : Int64)
  | relative (n : Int64)
  | beforeFirst
  | afterLast

namespace Move

/-- Where a move leads to if there is no end to the rows. -/
def target (size : Nat) (position : Int) : Move → Int
  | next => position + 1
  | previous => position - 1
  | first => 1
  | last => size
  | absolute n => if 0 ≤ n.toInt then n.toInt else size + 1 + n.toInt
  | relative n => position + n.toInt
  | beforeFirst => 0
  | afterLast => size + 1

def answers : Move → Bool
  | beforeFirst | afterLast => false
  | _ => true

end Move

/-- An integer position among rows: on one of them, before the first or after the last. -/
structure Place (size : Nat) where
  position : Int
  nonneg : 0 ≤ position
  within : position ≤ size + 1

namespace Place

/-- An integer cut off at the ends of the rows. -/
def clamp (size : Nat) (target : Int) : Place size where
  position := max 0 (min (size + 1) target)
  nonneg := by omega
  within := by omega

def start (size : Nat) : Place size :=
  clamp size 0

variable {size : Nat}

def onRow (p : Place size) : Bool :=
  1 ≤ p.position ∧ p.position ≤ size

def rowNumber (p : Place size) : Int :=
  if p.onRow then p.position else 0

def row? (p : Place size) (rows : List (List Value)) : Option (List Value) :=
  if p.onRow then rows[p.position.toNat - 1]? else none

def valueAt (p : Place size) (rows : List (List Value)) (i : Nat) : Except QueryError Value :=
  match (p.row? rows).bind (·[i]?) with
  | some value => .ok value
  | none => .error .noCurrentRow

def left (p : Place size) (rows : List (List Value)) : List (List Value) :=
  rows.drop p.position.toNat

def move (p : Place size) (m : Move) : Option Bool × Place size :=
  let moved := clamp size (m.target size p.position)
  (if m.answers then some moved.onRow else none, moved)

def moveAll (p : Place size) : List Move → List (Option Bool) × Place size
  | [] => ([], p)
  | m :: moves =>
    let (answer, moved) := p.move m
    let (answers, final) := moved.moveAll moves
    (answer :: answers, final)

end Place

namespace Cursor

variable {σ : Type} [RecordSource σ]

/-- Moves a cursor. There is no answer where the move has none to give. -/
def move (c : Cursor σ) (m : Move) : Except QueryError (Option Bool) × Cursor σ :=
  match m with
  | .next => (c.next.1.map some, c.next.2)
  | .previous => (c.previous.1.map some, c.previous.2)
  | .first => (c.first.1.map some, c.first.2)
  | .last => (c.last.1.map some, c.last.2)
  | .absolute n => ((c.absolute n).1.map some, (c.absolute n).2)
  | .relative n => ((c.relative n).1.map some, (c.relative n).2)
  | .beforeFirst => (c.beforeFirst.1.map fun _ => none, c.beforeFirst.2)
  | .afterLast => (c.afterLast.1.map fun _ => none, c.afterLast.2)

def moveAll (c : Cursor σ) : List Move → List (Except QueryError (Option Bool)) × Cursor σ
  | [] => ([], c)
  | m :: moves =>
    let (answer, moved) := c.move m
    let (answers, final) := moved.moveAll moves
    (answer :: answers, final)

end Cursor

namespace Place

variable {σ : Type} {columns : Columns} {rows : List (List Value)} {source : σ}

def cursor (columns : Columns) (source : σ) (p : Place rows.length) : Cursor σ where
  columns
  state := .buffered rows p.position.toNat source

variable {p : Place rows.length}

theorem onRow_iff : p.onRow = true ↔ 1 ≤ p.position ∧ p.position ≤ rows.length := by
  rw [onRow, decide_eq_true_iff]

theorem cursor_eq {n : Nat} (same : (n : Int) = p.position) :
    p.cursor columns source = { columns, state := .buffered rows n source } := by
  rw [cursor, ← same, Int.toNat_natCast]

theorem onRow_eq {n : Nat} (same : (n : Int) = p.position) :
    p.onRow = (decide (1 ≤ n) && decide (n ≤ rows.length)) := by
  rw [onRow, ← same, ← Bool.decide_and]
  exact decide_eq_decide.mpr (by omega)

theorem moveTo_cursor (p : Place rows.length) (columns : Columns) (source : σ)
    (f : Nat → Nat → Nat) (target : Int)
    (same : (f rows.length p.position.toNat : Int) = (clamp rows.length target).position) :
    (p.cursor columns source).moveTo f =
      (.ok (clamp rows.length target).onRow, (clamp rows.length target).cursor columns source) := by
  rw [cursor_eq same, onRow_eq same]
  rfl

theorem absolute_cursor (p : Place rows.length) (columns : Columns) (source : σ)
    (small : rows.length < 2 ^ 63 - 1) (n : Int64) :
    let moved := clamp rows.length (if 0 ≤ n.toInt then n.toInt else rows.length + 1 + n.toInt)
    (p.cursor columns source).absolute n = (.ok moved.onRow, moved.cursor columns source) := by
  refine moveTo_cursor p columns source _ _ ?_
  -- The rows are fewer than the greatest integer, so only integers beyond both ends saturate.
  have least := Int64.le_toInt n
  have greatest := Int64.toInt_lt n
  simp only [clamp, Cursor.saturate, Int64.toInt_minValue, Int64.toInt_maxValue]
  by_cases forward : 0 ≤ n.toInt
  · rw [if_pos forward, if_pos forward]
    omega
  · rw [if_neg forward, if_neg forward]
    omega

theorem relative_cursor (small : rows.length < 2 ^ 63 - 1) (n : Int64) :
    let moved := clamp rows.length (p.position + n.toInt)
    (p.cursor columns source).relative n = (.ok moved.onRow, moved.cursor columns source) := by
  refine moveTo_cursor p columns source _ _ ?_
  have nonneg := p.nonneg
  have within := p.within
  simp only [clamp, Cursor.saturate, Int64.toInt_minValue, Int64.toInt_maxValue]
  omega

theorem currentRow_cursor : (p.cursor columns source).currentRow = p.row? rows := by
  have nonneg := p.nonneg
  rw [row?]
  by_cases here : p.onRow
  · obtain ⟨first, -⟩ := onRow_iff.mp here
    have started : p.position.toNat ≠ 0 := by omega
    rw [if_pos here]
    exact if_neg started
  · rw [if_neg here]
    rw [onRow_iff] at here
    by_cases before : p.position.toNat = 0
    · exact if_pos before
    · refine (if_neg before).trans (List.getElem?_eq_none ?_)
      omega

theorem valueAt_cursor (i : Nat) :
    (p.cursor columns source).valueAt i = p.valueAt rows i := by
  rw [Cursor.valueAt, currentRow_cursor]
  rfl

theorem get_cursor {name : String} {i : Nat} (known : columns.position? name = some i) :
    (p.cursor columns source).get name = p.valueAt rows i := by
  have found : (p.cursor columns source).columns.position? name = some i := known
  rw [Cursor.get, found]
  exact valueAt_cursor i

theorem getIndex_cursor {index : Nat} (counted : 1 ≤ index) (known : index ≤ columns.size) :
    (p.cursor columns source).getIndex index = p.valueAt rows (index - 1) := by
  have valid : ¬(index = 0 ∨ (p.cursor columns source).columns.size < index) := by
    rintro (none | beyond)
    · omega
    · exact absurd known (Nat.not_le_of_lt beyond)
  rw [Cursor.getIndex, if_neg valid]
  exact valueAt_cursor (index - 1)

theorem rowNumber_cursor : ((p.cursor columns source).rowNumber : Int) = p.rowNumber := by
  have nonneg := p.nonneg
  by_cases here : p.onRow
  · obtain ⟨first, last⟩ := onRow_iff.mp here
    have within : p.position.toNat ≤ rows.length := by omega
    have found : (p.cursor columns source).rowNumber = p.position.toNat := if_pos within
    rw [rowNumber, if_pos here, found]
    omega
  · have found : (p.cursor columns source).rowNumber = 0 := by
      rw [onRow_iff] at here
      by_cases within : p.position.toNat ≤ rows.length
      · refine (if_pos within).trans ?_
        omega
      · exact if_neg within
    rw [rowNumber, if_neg here, found]
    rfl

variable [RecordSource σ]

theorem next_cursor :
    let moved := clamp rows.length (p.position + 1)
    (p.cursor columns source).next = (.ok moved.onRow, moved.cursor columns source) := by
  intro moved
  have nonneg := p.nonneg
  have within := p.within
  -- After the last row the cursor stays where it is, and so does the integer that is cut off.
  let place := if p.position.toNat ≤ rows.length then p.position.toNat + 1 else p.position.toNat
  have same : (place : Int) = moved.position := by
    simp only [moved, clamp, place]
    split
    · omega
    · omega
  have started : 1 ≤ place := by
    simp only [place]
    split
    · omega
    · omega
  rw [cursor_eq same, onRow_eq same, decide_eq_true started, Bool.true_and]
  rfl

theorem move_cursor (small : rows.length < 2 ^ 63 - 1) (m : Move) :
    (p.cursor columns source).move m = (.ok (p.move m).1, (p.move m).2.cursor columns source) := by
  have nonneg := p.nonneg
  have within := p.within
  cases m with
  | next =>
    rw [Cursor.move, next_cursor]
    rfl
  | previous =>
    have moved := moveTo_cursor p columns source (fun _ position => position - 1)
      (p.position - 1) (by simp only [clamp]; omega)
    rw [Cursor.move, Cursor.previous, moved]
    rfl
  | first =>
    have moved := absolute_cursor p columns source small 1
    rw [Cursor.move, Cursor.first, moved]
    rfl
  | last =>
    have place : (if 0 ≤ (-1 : Int64).toInt then (-1 : Int64).toInt
        else rows.length + 1 + (-1 : Int64).toInt) = rows.length := by
      rw [show (-1 : Int64).toInt = -1 from rfl, if_neg (by decide)]
      omega
    have moved := absolute_cursor p columns source small (-1)
    rw [Cursor.move, Cursor.last, moved, place]
    rfl
  | absolute n =>
    rw [Cursor.move, absolute_cursor p columns source small]
    rfl
  | relative n =>
    rw [Cursor.move, relative_cursor small]
    rfl
  | beforeFirst =>
    have moved := moveTo_cursor p columns source (fun _ _ => 0) 0 (by simp only [clamp]; omega)
    rw [Cursor.move, Cursor.beforeFirst, moved]
    rfl
  | afterLast =>
    have moved := moveTo_cursor p columns source (fun size _ => size + 1) (rows.length + 1)
      (by simp only [clamp]; omega)
    rw [Cursor.move, Cursor.afterLast, moved]
    rfl

theorem moveAll_cursor (small : rows.length < 2 ^ 63 - 1) (moves : List Move) :
    (p.cursor columns source).moveAll moves =
      ((p.moveAll moves).1.map .ok, (p.moveAll moves).2.cursor columns source) := by
  induction moves generalizing p with
  | nil => rfl
  | cons m moves ih => simp only [Cursor.moveAll, move_cursor small, ih, moveAll, List.map_cons]

theorem delivers_cursor : (p.cursor columns source).Delivers (p.left rows) none := by
  by_cases before : p.position.toNat ≤ rows.length
  · exact Cursor.delivers_buffered rfl rfl before
  · -- A cursor after the last row has nothing left, and it stays there.
    have after : p.left rows = [] := List.drop_of_length_le (by omega)
    have beyond : (clamp rows.length (p.position + 1)).onRow = false := by
      rw [← Bool.not_eq_true, onRow_iff]
      simp only [clamp]
      omega
    rw [after]
    exact .ended (by rw [next_cursor, beyond])

theorem fetchAll_cursor : (p.cursor columns source).fetchAll.1 = .ok (p.left rows) := by
  have fewer : (p.left rows).length < rows.length + 1 := by
    rw [left, List.length_drop]
    omega
  have fetched : (p.cursor columns source).fetch.1 = (p.left rows, none) :=
    Cursor.fetchWithin_of_delivers delivers_cursor _ fewer
  rw [Cursor.fetchAll]
  generalize (p.cursor columns source).fetch = step at fetched
  obtain ⟨found, after⟩ := step
  subst fetched
  rfl

end Place

namespace Cursor

variable {σ : Type} [RecordSource σ]

/-- A cursor over a whole result cannot be told from an integer position in its rows: whatever moves are
made, their answers and all that can be read afterwards are those of the position. -/
theorem moves_as_position (columns : Columns) (rows : List (List Value)) (source : σ)
    (small : rows.length < 2 ^ 63 - 1) (moves : List Move) :
    let run := moveAll { columns, state := .buffered rows 0 source } moves
    let model := (Place.start rows.length).moveAll moves
    run.1 = model.1.map .ok ∧
    (run.2.rowNumber : Int) = model.2.rowNumber ∧
    (∀ name i, columns.position? name = some i → run.2.get name = model.2.valueAt rows i) ∧
    (∀ index, 1 ≤ index → index ≤ columns.size →
      run.2.getIndex index = model.2.valueAt rows (index - 1)) ∧
    run.2.fetchAll.1 = .ok (model.2.left rows) := by
  intro run model
  have same : run = (model.1.map .ok, model.2.cursor columns source) :=
    Place.moveAll_cursor (p := .start rows.length) small moves
  rw [same]
  exact ⟨rfl, Place.rowNumber_cursor, fun _ _ known => Place.get_cursor known,
    fun _ counted known => Place.getIndex_cursor counted known, Place.fetchAll_cursor⟩

/-- Moves by the greatest and the least 64-bit integer among two rows. -/
theorem moves_as_position_at_extremes :
    (moveAll { columns := ⟨["name"]⟩
               state := .buffered [[.text "a"], [.text "b"]] 0 (⟨[], [], []⟩ : MemoryTable) }
        [.relative Int64.maxValue, .previous, .relative Int64.minValue, .absolute Int64.maxValue,
          .last, .next, .absolute Int64.minValue, .next]).1 =
      [some false, some true, some false, some false, some true, some false, some false,
        some true].map .ok :=
  (moves_as_position ⟨["name"]⟩ [[.text "a"], [.text "b"]] (⟨[], [], []⟩ : MemoryTable) (by decide)
    [.relative Int64.maxValue, .previous, .relative Int64.minValue, .absolute Int64.maxValue,
      .last, .next, .absolute Int64.minValue, .next]).1

end Cursor

end PlainTables
