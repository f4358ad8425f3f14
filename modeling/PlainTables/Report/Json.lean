import PlainTables.Value

/-!
# Values and results in JSON

The JSON form of a value: numbers bare, texts and dates as strings, and `null` for what JSON has no
number for. Numbers have the fewest digits that read back, and are written with an exponent when they
are very large or very small.

A result is a list of objects, one a row, whose members are ordered by the names of the columns. Of columns with
the same name the last one counts.
-/

namespace PlainTables.Json

def hexDigit (n : Nat) : Char :=
  Nat.digitChar (n % 16)

def escapeChar (c : Char) : List Char :=
  if c = '"' then ['\\', '"']
  else if c = '\\' then ['\\', '\\']
  else if c = '\n' then ['\\', 'n']
  else if c = '\r' then ['\\', 'r']
  else if c = '\t' then ['\\', 't']
  else if c = '\x08' then ['\\', 'b']
  else if c = '\x0c' then ['\\', 'f']
  else if c.toNat < 32 then
    ['\\', 'u', '0', '0', hexDigit (c.toNat / 16), hexDigit c.toNat]
  else [c]

def string (s : List Char) : List Char :=
  '"' :: (s.flatMap escapeChar ++ ['"'])

/-- The magnitude of a finite number. Of two decimals that are equally near the even one is taken;
numbers from `10 ^ -5` to below `10 ^ 16` are written without an exponent. -/
def magnitude (rank : Nat) : List Char :=
  if rank = 0 then ['0', '.', '0']
  else
    let d := Double.shortest (fun low => low % 2 = 1) rank
    let ds := Nat.toDigits 10 d.digits
    let point := ds.length + d.exponent
    if -5 < point ∧ point ≤ 16 then
      if 0 ≤ d.exponent then d.positional ++ ['.', '0'] else d.positional
    else
      let fraction := match ds.tail with
        | [] => []
        | rest => '.' :: rest
      let e := point - 1
      let sign := if e < 0 then '-' else '+'
      ds.take 1 ++ fraction ++ 'e' :: sign :: Nat.toDigits 10 e.natAbs

/-- A number; infinity and undefined results have none. -/
def number : Double → List Char
  | .nan => "null".toList
  | .number negative rank _ =>
    if rank = infinityRank then "null".toList
    else if negative then '-' :: magnitude rank
    else magnitude rank

end PlainTables.Json

namespace PlainTables.Value

def json : Value → List Char
  | null => "null".toList
  | integer i => Numeral.intText i.toInt
  | double d => Json.number d
  | text s => Json.string s.toList
  | date d => Json.string d.text
  | time t => Json.string t.fullText
  | timestamp t => Json.string t.fullText

end PlainTables.Value

namespace PlainTables.Json

def insertMember (name : String) (v : Value) : List (String × Value) → List (String × Value)
  | [] => [(name, v)]
  | (own, old) :: members =>
    if name < own then (name, v) :: (own, old) :: members
    else if name = own then (name, v) :: members
    else (own, old) :: insertMember name v members

def members (columns : List String) (row : List Value) : List (String × Value) :=
  (columns.zip row).foldl (fun ms (name, v) => insertMember name v ms) []

/-- Items between brackets, each on a line of its own that is indented one step further. -/
def bracketed (opening closing : Char) (indent : Nat) (items : List (List Char)) : List Char :=
  if items.isEmpty then [opening, closing]
  else
    let margin (n : Nat) := '\n' :: List.replicate (2 * n) ' '
    let lines := items.map fun item => margin (indent + 1) ++ item
    opening :: ([','].intercalate lines ++ margin indent ++ [closing])

def object (indent : Nat) (ms : List (String × Value)) : List Char :=
  bracketed '\x7b' '\x7d' indent (ms.map fun (name, v) => string name.toList ++ ": ".toList ++ v.json)

def records (columns : List String) (rows : List (List Value)) : String :=
  String.ofList (bracketed '[' ']' 0 (rows.map fun row => object 1 (members columns row)))

end PlainTables.Json
