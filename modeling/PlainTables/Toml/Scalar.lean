import PlainTables.Calendar
import PlainTables.Double.Decimal
import PlainTables.Settings.Tree
import PlainTables.Text.Characters
import PlainTables.Text.Reader
import PlainTables.Value

/-!
# Scalars of TOML

The texts, numbers, truth values, and dates and times of a TOML document, and the blanks and comments
between them. Dates and times are settings by their text.
-/

namespace PlainTables.Toml

open Reader Text

def isBlank (c : Char) : Bool :=
  c = ' ' || c = '\t'

/-- The characters of comments and texts: all but the control characters, and the tab. -/
def isPlain (c : Char) : Bool :=
  c = '\t' || (' ' ≤ c && c ≠ '\x7f')

def blanks : Reader Unit := do
  let _ ← takeWhile isBlank

def newline : Reader Unit :=
  orElse (char '\n') (exactly "\r\n")

def comment : Reader Unit := do
  char '#'
  let _ ← takeWhile isPlain

def lineEnd : Reader Unit := do
  blanks
  let _ ← optional comment
  orElse newline finish

def gap : Reader Unit := do
  let _ ← many (orElse (do let _ ← takeWhile1 isBlank) (do
    let _ ← optional comment
    newline))

def codePoint (size : Nat) : Reader Char :=
  filterMap (times (satisfy (isDigitOf 16)) size) fun digits => charAt? (ofDigits 16 digits)

def escape : Reader Char := do
  char '\\'
  match ← satisfy fun _ => true with
  | 'b' => return '\x08'
  | 't' => return '\t'
  | 'n' => return '\n'
  | 'f' => return '\x0c'
  | 'r' => return '\r'
  | '"' => return '"'
  | '\\' => return '\\'
  | 'u' => codePoint 4
  | 'U' => codePoint 8
  | _ => miss

def unescaped (quote : Char) : Reader Char :=
  satisfy fun c => isPlain c && c ≠ quote && (c ≠ '\\' || quote ≠ '"')

/-- Double quotes allow for escapes, single ones do not. -/
def textChar (quote : Char) : Reader Char :=
  if quote = '"' then orElse (unescaped quote) escape else unescaped quote

def lineText (quote : Char) : Reader String := do
  char quote
  let cs ← many (textChar quote)
  char quote
  return String.ofList cs

/-- The end of a line that does not count, with all blanks and line ends after it. -/
def lineContinuation : Reader Unit := do
  char '\\'
  blanks
  newline
  let _ ← many (orElse (do let _ ← takeWhile1 isBlank) newline)

def innerQuotes (quote : Char) : Reader (List Char) :=
  filterMap (takeWhile1 (· = quote)) fun qs => if qs.length ≤ 2 then some qs else none

/-- The three quotes at the end of a text of several lines, after up to two that belong to it. -/
def closingQuotes (quote : Char) : Reader (List Char) :=
  filterMap (takeWhile (· = quote)) fun qs =>
    if 3 ≤ qs.length ∧ qs.length ≤ 5 then some (qs.drop 3) else none

def longTextPart (quote : Char) : Reader (List Char) :=
  orElse (do return [← unescaped quote]) <|
  orElse (do
    newline
    return ['\n']) <|
  orElse (innerQuotes quote) <|
  if quote = '"' then
    orElse (do
      lineContinuation
      return []) (do return [← escape])
  else miss

/-- A text of several lines. A line end right at its start does not belong to it. -/
def longText (quote : Char) : Reader String := do
  let _ ← times (char quote) 3
  let _ ← optional newline
  let parts ← many (longTextPart quote)
  let quotes ← closingQuotes quote
  return String.ofList (parts.flatten ++ quotes)

def anyText : Reader String :=
  orElse (longText '"') <| orElse (lineText '"') <| orElse (longText '\'') (lineText '\'')

/-- Digits that may have single underscores between them, without these. -/
def digitRun (base : Nat) : Reader (List Char) := do
  let first ← satisfy (isDigitOf base)
  let more ← many (orElse (satisfy (isDigitOf base)) (do
    char '_'
    satisfy (isDigitOf base)))
  return first :: more

def sign : Reader (List Char) := do
  return (← optional (satisfy fun c => c = '+' || c = '-')).toList

/-- An integer without needless zeros in front. -/
def decimalDigits : Reader (List Char) := do
  let s ← sign
  let ds ← orElse (do
    char '0'
    return ['0']) (digitRun 10)
  return s ++ ds

/-- An integer in base 16, 8 or 2. -/
def basedInteger (letter : Char) (base : Nat) : Reader Int64 := do
  char '0'
  char letter
  filterMap (digitRun base) fun ds =>
    let n := ofDigits base ds
    if n < Nat.pow 2 63 then some (Int64.ofNat n) else none

def integer : Reader Int64 :=
  orElse (basedInteger 'x' 16) <|
  orElse (basedInteger 'o' 8) <|
  orElse (basedInteger 'b' 2) (filterMap decimalDigits Numeral.readInt64?)

def fraction : Reader (List Char) := do
  char '.'
  return '.' :: (← digitRun 10)

def exponent : Reader (List Char) := do
  let _ ← satisfy fun c => c = 'e' || c = 'E'
  let s ← sign
  return 'e' :: (s ++ (← digitRun 10))

/-- A number with a fraction or an exponent; it has to lie below positive infinity. -/
def finiteDouble : Reader Double :=
  filterMap (do
    let whole ← decimalDigits
    let rest ← orElse exponent (do
      let f ← fraction
      return f ++ ((← optional exponent).getD []))
    return whole ++ rest) fun s =>
      (Double.read? s).bind fun d => if d = .infinity false then none else some d

def specialDouble : Reader Double := do
  let s ← sign
  orElse (do
    exactly "inf"
    return .infinity (s = ['-'])) (do
    exactly "nan"
    return .nan)

def double : Reader Double :=
  orElse finiteDouble specialDouble

/-- A run of decimal digits of this size, with its number. -/
def fixedDigits (size : Nat) : Reader (List Char × Nat) := do
  let ds ← times (satisfy Char.isDigit) size
  return (ds, ofDigits 10 ds)

def upTo (bound : Nat) : Reader (List Char) :=
  filterMap (fixedDigits 2) fun (ds, n) => if n ≤ bound then some ds else none

def day : Reader (List Char) :=
  filterMap (do
    let y ← fixedDigits 4
    char '-'
    let m ← fixedDigits 2
    char '-'
    let d ← fixedDigits 2
    return (y, m, d)) fun ((ys, y), (ms, m), (ds, d)) =>
      if Calendar.isDay y m d then some (ys ++ '-' :: ms ++ '-' :: ds) else none

/-- A fraction of a second: nine digits count, and zeros at the end do not. -/
def secondFraction : Reader (List Char) := do
  char '.'
  let ds ← takeWhile1 Char.isDigit
  match ((ds.take 9).reverse.dropWhile (· = '0')).reverse with
  | [] => return []
  | ds => return '.' :: ds

def timeOfDay : Reader (List Char) := do
  let h ← upTo 23
  char ':'
  let m ← upTo 59
  char ':'
  let s ← upTo 60
  let f ← optional secondFraction
  return h ++ ':' :: m ++ ':' :: s ++ f.getD []

/-- The text of an offset from universal time; one of no minutes is positive. -/
def offset : Reader (List Char) :=
  orElse
    (do
      let _ ← satisfy fun c => c = 'Z' || c = 'z'
      return ['Z'])
    (do
      let s ← satisfy fun c => c = '+' || c = '-'
      let h ← upTo 23
      char ':'
      let m ← upTo 59
      let isZero := (h ++ m).all (· = '0')
      return (if isZero then '+' else s) :: (h ++ ':' :: m))

def moment : Reader (List Char) :=
  orElse
    (do
      let d ← day
      let t ← optional (do
        let _ ← satisfy fun c => c = 'T' || c = 't' || c = ' '
        let t ← timeOfDay
        return 'T' :: (t ++ ((← optional offset).getD [])))
      return d ++ t.getD [])
    timeOfDay

def boolean : Reader Bool :=
  orElse
    (do
      exactly "true"
      return true)
    (do
      exactly "false"
      return false)

def scalar : Reader Setting :=
  orElse (do return .text (← anyText)) <|
  orElse (do return .boolean (← boolean)) <|
  orElse (do return .text (String.ofList (← moment))) <|
  orElse (do return .double (← double)) (do return .integer (← integer))

end PlainTables.Toml
