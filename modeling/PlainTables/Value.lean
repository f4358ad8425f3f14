import PlainTables.Calendar
import PlainTables.DataType
import PlainTables.Double.Decimal
import PlainTables.QueryError
import PlainTables.Text.Characters

/-!
# Values

The values that rows hold, their texts, their order and their sum. Rows are merged by DISTINCT and
GROUP BY when their values are equal; comparisons use `compare?`, which also relates values of
different types.
-/

namespace PlainTables

/-- A value of a row; `null` stands for a missing one. -/
inductive Value where
  | null
  | integer (i : Int64)
  | double (d : Double)
  | text (s : String)
  | date (d : Date)
  | time (t : TimeOfDay)
  | timestamp (t : Timestamp)
deriving DecidableEq

namespace Numeral

/-- The integer of a text with an optional sign, if it has 64 bits. -/
def readInt64? (s : List Char) : Option Int64 :=
  let (negative, ds) := Double.splitSign s
  if ds.isEmpty || !ds.all Char.isDigit then none
  else
    let n : Int := Nat.ofDigitChars 10 ds 0
    let i := if negative then -n else n
    if Int64.minValue.toInt ≤ i ∧ i ≤ Int64.maxValue.toInt then some (Int64.ofInt i) else none

/-- The count of a text of digits, with or without a plus sign, if it has 64 bits. -/
def readUInt64? (s : List Char) : Option UInt64 :=
  let ds := match s with
    | '+' :: ds => ds
    | ds => ds
  if ds.isEmpty || !ds.all Char.isDigit then none
  else
    let n := Nat.ofDigitChars 10 ds 0
    if n < UInt64.size then some (UInt64.ofNat n) else none

def intText (i : Int) : List Char :=
  let ds := Nat.toDigits 10 i.natAbs
  if i < 0 then '-' :: ds else ds

end Numeral

namespace Value

def isNull : Value → Bool
  | null => true
  | _ => false

def isNumeric : Value → Bool
  | integer _ | double _ => true
  | _ => false

def asInt? : Value → Option Int64
  | integer i => some i
  | _ => none

def asText? : Value → Option String
  | text s => some s
  | _ => none

def type : Value → DataType
  | null | text _ => .string
  | integer _ => .integer
  | double _ => .double
  | date _ => .date
  | time _ => .time
  | timestamp _ => .timestamp

/-- The number of a numeric value, or of a text that holds a number between blanks. -/
def asDouble? : Value → Option Double
  | integer i => some (Double.ofInt i.toInt)
  | double d => some d
  | text s => Double.read? (Text.trim s.toList)
  | _ => none

def chars : Value → List Char
  | null => "NULL".toList
  | integer i => Numeral.intText i.toInt
  | double d => d.text
  | text s => s.toList
  | date d => d.text
  | time t => t.text
  | timestamp t => t.text

def display (v : Value) : String :=
  match v with
  | text s => s
  | v => String.ofList v.chars

/-- The text of a value as part of a longer one, where `null` adds nothing. -/
def addendText : Value → String
  | null => ""
  | v => v.display

/-- The order of two values: as numbers if one is a number and the other a number or a text that
holds one, chronologically for two dates or times of one type, and otherwise by their texts. There is
none with `null`, nor with an undefined number. -/
def compare? : Value → Value → Option Ordering
  | null, _ | _, null => none
  | integer l, integer r => some (compare l.toInt r.toInt)
  | date l, date r => some (l.compare r)
  | time l, time r => some (l.compare r)
  | timestamp l, timestamp r => some (l.compare r)
  | text l, text r => some (compare l r)
  | l, r =>
    if l.isNumeric || r.isNumeric then
      match l.asDouble?, r.asDouble? with
      | some x, some y => x.compare? y
      | _, _ => some (compare l.display r.display)
    else some (compare l.display r.display)

def addInt64? (l r : Int64) : Option Int64 :=
  let s := l.toInt + r.toInt
  if Int64.minValue.toInt ≤ s ∧ s ≤ Int64.maxValue.toInt then some (Int64.ofInt s) else none

/-- The sum of numbers, the joined texts if one is a text, and the timestamp of a date and a time. -/
def add : Value → Value → Except QueryError Value
  | text l, r => .ok (text (l ++ r.addendText))
  | l, text r => .ok (text (l.addendText ++ r))
  | null, _ | _, null => .ok null
  | integer l, integer r =>
    match addInt64? l r with
    | some s => .ok (integer s)
    | none => .error (.type (.sumOverflow l.toInt r.toInt))
  | integer l, double r => .ok (double ((Double.ofInt l.toInt).add r))
  | double l, integer r => .ok (double (l.add (Double.ofInt r.toInt)))
  | double l, double r => .ok (double (l.add r))
  | date d, time t => .ok (timestamp ⟨d, t⟩)
  | time t, date d => .ok (timestamp ⟨d, t⟩)
  | l, r => .error (.type (.notAddable l.type r.type))

end Value

end PlainTables
