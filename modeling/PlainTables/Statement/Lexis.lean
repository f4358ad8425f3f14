import PlainTables.Statement
import PlainTables.Text.Casing
import PlainTables.Text.Letter
import PlainTables.Text.Reader

/-!
# Words, names and literals

The smallest parts of a statement. Names stand between double quotes or are words other than the
keywords; texts stand between single quotes. A quote inside is written twice.
-/

namespace PlainTables.Lexis

open Reader

/-- The words that end names and unquoted texts. -/
def keywords : List String :=
  ["SELECT", "DISTINCT", "FROM", "WHERE", "GROUP", "BY", "HAVING", "ORDER", "LIMIT", "OFFSET",
   "AND", "OR", "NOT", "AS", "IS", "NULL", "BETWEEN", "LIKE", "ASC", "DESC"]

def isKeyword (w : List Char) : Bool :=
  keywords.any fun k => Text.sameLatin k.toList w

def isWordChar (c : Char) : Bool :=
  Text.isAlphanumeric c || c = '_'

/-- A keyword that does not run on into a longer word. -/
def keyword (k : String) : Reader Unit := do
  tag k
  notFollowedBy isWordChar

def anyWord : Reader (List Char) := do
  let c ← satisfy fun c => Text.isAlphabetic c || c = '_'
  return c :: (← takeWhile isWordChar)

def word : Reader (List Char) :=
  filterMap anyWord fun w => if isKeyword w then none else some w

/-- What stands before the closing quote, and the rest after it. -/
def closeQuote? (q : Char) : List Char → Option (List Char × List Char)
  | [] => none
  | [c] => if c = q then some ([], []) else none
  | c :: d :: r =>
    if c = q then
      if d = q then (closeQuote? q r).map fun (cs, r) => (q :: cs, r)
      else some ([], d :: r)
    else (closeQuote? q (d :: r)).map fun (cs, r) => (c :: cs, r)

def quoted (q : Char) : Reader String := fun s =>
  match s with
  | c :: r =>
    if c = q then
      match closeQuote? q r with
      | some (cs, r) => .ok (String.ofList cs, r)
      | none => .error (.miss s)
    else .error (.miss s)
  | [] => .error (.miss s)

def identifier : Reader String :=
  orElse (quoted '"') (do return String.ofList (← word))

/-- The name of a table, which may be a path. -/
def tableName : Reader String :=
  orElse (quoted '"') <|
    filterMap (takeWhile1 fun c => isWordChar c || c = '.' || c = '-' || c = '/' || c = '\\')
      fun w => if isKeyword w then none else some (String.ofList w)

def textLiteral : Reader String := quoted '\''

def digits : Reader (List Char) := takeWhile1 Char.isDigit

/-- The characters of a number: digits with an optional minus, fraction and exponent. -/
def numeral : Reader (List Char) := do
  let minus ← optional (satisfy (· = '-'))
  let whole ← digits
  let fraction ← optional (do
    let c ← satisfy (· = '.')
    return c :: (← digits))
  let exponent ← optional (do
    let e ← satisfy fun c => c = 'e' || c = 'E'
    let sign ← optional (satisfy fun c => c = '+' || c = '-')
    return e :: (sign.toList ++ (← digits)))
  return minus.toList ++ whole ++ fraction.getD [] ++ exponent.getD []

/-- The value of a numeral: an integer unless it has a fraction or exponent. -/
def numberValue? (s : List Char) : Option Value :=
  if s.any fun c => c = '.' || c = 'e' || c = 'E' then (Double.read? s).map .double
  else (Numeral.readInt64? s).map .integer

def numberLiteral : Reader Value :=
  filterMap (do
    let s ← numeral
    notFollowedBy isWordChar
    return s) numberValue?

def literal : Reader Value :=
  orElse (do return .text (← textLiteral)) <|
    orElse numberLiteral (do
      keyword "NULL"
      return .null)

def nextBareWord : Reader (List Char) := do
  let blanks ← takeWhile1 fun c => c = ' ' || c = '\t'
  return blanks ++ (← word)

/-- Unquoted words up to the next keyword, taken as one text. What goes on as a dotted name, a call
or a sum is not one. -/
def bareText : Reader Value := fun s =>
  let words : Reader (List Char) := do
    let first ← word
    let more ← many nextBareWord
    return first ++ more.flatten
  match words s with
  | .ok (cs, r) => match r with
    | '.' :: _ | '(' :: _ | '+' :: _ => .error (.miss s)
    | _ => .ok (.text (String.ofList cs), r)
  | .error stop => .error stop

def rowCount : Reader UInt64 :=
  filterMap digits Numeral.readUInt64?

def comparison : Reader Comparison :=
  orElse (do exactly "<="; return .le) <|
  orElse (do exactly ">="; return .ge) <|
  orElse (do exactly "<>"; return .ne) <|
  orElse (do exactly "="; return .eq) <|
  orElse (do exactly "<"; return .lt) (do exactly ">"; return .gt)

end PlainTables.Lexis
