import PlainTables.Double.Decimal
import PlainTables.Settings.Tree
import PlainTables.Text.Characters
import PlainTables.Text.Reader
import PlainTables.Value

/-!
# JSON documents

Reading of a document into settings. Of the members of an object with one name the last one counts,
and an integer that is too large for an integer setting is a number with a fraction.
-/

namespace PlainTables.Json

open Reader Text

/-- Half of a character beyond the basic plane, or a character in it, by four digits. -/
def codeUnit : Reader Nat := do
  return ofDigits 16 (← times (satisfy (isDigitOf 16)) 4)

def ofCodeUnits : Reader Char := do
  let first ← codeUnit
  if 0xd800 ≤ first && first < 0xdc00 then
    exactly "\\u"
    let second ← codeUnit
    if 0xdc00 ≤ second && second < 0xe000 then
      return Char.ofNat (0x10000 + (first - 0xd800) * 0x400 + (second - 0xdc00))
    else miss
  else
    match charAt? first with
    | some c => return c
    | none => miss

def escape : Reader Char := do
  char '\\'
  match ← satisfy fun _ => true with
  | 'b' => return '\x08'
  | 'f' => return '\x0c'
  | 'n' => return '\n'
  | 'r' => return '\r'
  | 't' => return '\t'
  | 'u' => ofCodeUnits
  | c => if c = '"' || c = '\\' || c = '/' then return c else miss

def text : Reader String := do
  char '"'
  let cs ← many (orElse (satisfy fun c => ' ' ≤ c && c ≠ '"' && c ≠ '\\') escape)
  char '"'
  return String.ofList cs

/-- The digits of a whole number without needless zeros in front. -/
def wholeDigits : Reader (List Char) :=
  orElse (do
    char '0'
    return ['0']) (takeWhile1 Char.isDigit)

def fraction : Reader (List Char) := do
  char '.'
  return '.' :: (← takeWhile1 Char.isDigit)

def exponent : Reader (List Char) := do
  let _ ← satisfy fun c => c = 'e' || c = 'E'
  let sign ← optional (satisfy fun c => c = '+' || c = '-')
  return 'e' :: (sign.toList ++ (← takeWhile1 Char.isDigit))

/-- The setting of a numeral. Minus zero is no integer. -/
def numeralSetting? (sign whole rest : List Char) : Option Setting :=
  let integer :=
    if rest.isEmpty && !(sign = ['-'] && whole = ['0']) then
      Numeral.readInt64? (sign ++ whole)
    else none
  match integer with
  | some i => some (.integer i)
  | none =>
    (Double.read? (sign ++ whole ++ rest)).bind fun d =>
      if d = .infinity false || d = .infinity true then none else some (.double d)

def numeral : Reader Setting :=
  filterMap (do
    let sign ← optional (satisfy (· = '-'))
    let whole ← wholeDigits
    let f ← optional fraction
    let e ← optional exponent
    return (sign.toList, whole, f.getD [] ++ e.getD [])) fun (sign, whole, rest) =>
      numeralSetting? sign whole rest

def word (w : String) (s : Setting) : Reader Setting := do
  exactly w
  return s

def scalar : Reader Setting :=
  orElse (do return .text (← text)) <|
  orElse numeral <|
  orElse (word "true" (.boolean true)) <|
  orElse (word "false" (.boolean false)) (word "null" .absent)

/-- A value with at most this many arrays and objects around each of its parts. -/
def valueWithin : Nat → Reader Setting
  | 0 => scalar
  | depth + 1 =>
    let inner := valueWithin depth
    let member : Reader (String × Setting) := do
      let name ← text
      spaced (char ':')
      return (name, ← inner)
    orElse (do
      char '['
      return .list (← itemsUpTo spaces false ']' inner)) <|
    orElse (do
      char '\x7b'
      return .ofMembers (← itemsUpTo spaces false '\x7d' member)) scalar

/-- How many arrays and objects may stand inside each other. -/
def nestingLimit : Nat := 127

def read? (s : List Char) : Option Setting :=
  whole? (spaced (valueWithin nestingLimit)) s

end PlainTables.Json
