import PlainTables.Json.Document
import PlainTables.Text.Characters
import PlainTables.Text.Letter

/-!
# JSON5 documents

JSON with comments, names without quotes, texts in single quotes, commas at the end of lists, and more
ways to write numbers.
-/

namespace PlainTables.Json5

open Reader Text

def isLineEnd (c : Char) : Bool :=
  c = '\n' || c = '\r' || c = '\u2028' || c = '\u2029'

/-- What follows the end of a comment that goes over several lines. -/
def afterComment? : List Char → Option (List Char)
  | '*' :: '/' :: s => some s
  | _ :: s => afterComment? s
  | [] => none

def comment : Reader Unit :=
  orElse (do
    exactly "//"
    let _ ← takeWhile fun c => !isLineEnd c) (do
    exactly "/*"
    match afterComment? (← get) with
    | some s => set s
    | none => miss)

def gap : Reader Unit := do
  let _ ← many (orElse comment (do
    let _ ← takeWhile1 fun c => (isBlank c && c ≠ '\u0085') || c = '\ufeff'))

/-- What a backslash stands for together with what follows it; the end of a line does not count. -/
def escape : Reader (List Char) := do
  char '\\'
  match ← satisfy fun _ => true with
  | 'b' => return ['\x08']
  | 'f' => return ['\x0c']
  | 'n' => return ['\n']
  | 'r' => return ['\r']
  | 't' => return ['\t']
  | 'v' => return ['\x0b']
  | '0' => do
    notFollowedBy Char.isDigit
    return ['\x00']
  | 'x' => return [Char.ofNat (ofDigits 16 (← times (satisfy (isDigitOf 16)) 2))]
  | 'u' => return [← Json.ofCodeUnits]
  | '\r' => do
    let _ ← optional (char '\n')
    return []
  | c => if isLineEnd c then return [] else if c.isDigit then miss else return [c]

def text : Reader String := do
  let quote ← satisfy fun c => c = '"' || c = '\''
  let parts ← many (orElse escape (do
    return [← satisfy fun c => c ≠ quote && c ≠ '\\' && c ≠ '\n' && c ≠ '\r']))
  char quote
  return String.ofList parts.flatten

def bareName : Reader String := do
  let first ← satisfy fun c => isAlphabetic c || c = '$' || c = '_'
  let rest ← takeWhile fun c => isAlphanumeric c || c = '$' || c = '_'
  return String.ofList (first :: rest)

def hexadecimal (negative : Bool) : Reader Setting := do
  char '0'
  let _ ← satisfy fun c => c = 'x' || c = 'X'
  filterMap (takeWhile1 (isDigitOf 16)) fun ds =>
    let n := ofDigits 16 ds
    if n < 4294967296 then
      some (.integer (Int64.ofInt (if negative then -(n : Int) else n)))
    else none

/-- A number in base 10, with a digit before or after its point. -/
def decimal (sign : List Char) : Reader Setting :=
  filterMap (do
    let whole ← optional Json.wholeDigits
    let f ← optional (do
      char '.'
      return '.' :: (← takeWhile Char.isDigit))
    let e ← optional Json.exponent
    return (whole.getD [], f.getD [] ++ e.getD [])) fun (whole, rest) =>
      if rest.isEmpty then (Numeral.readInt64? (sign ++ whole)).map Setting.integer
      else (Double.read? (sign ++ whole ++ rest)).map Setting.double

def numeral : Reader Setting := do
  let sign ← optional (satisfy fun c => c = '+' || c = '-')
  let negative := sign = some '-'
  orElse (Json.word "Infinity" (.double (.infinity negative))) <|
  orElse (Json.word "NaN" (.double .nan)) <|
  orElse (hexadecimal negative) (decimal sign.toList)

def scalar : Reader Setting :=
  orElse (do return .text (← text)) <|
  orElse numeral <|
  orElse (Json.word "true" (.boolean true)) <|
  orElse (Json.word "false" (.boolean false)) (Json.word "null" .absent)

/-- A value with at most this many arrays and objects around each of its parts. -/
def valueWithin : Nat → Reader Setting
  | 0 => scalar
  | depth + 1 =>
    let inner := valueWithin depth
    let member : Reader (String × Setting) := do
      let name ← orElse text bareName
      within gap (char ':')
      return (name, ← inner)
    orElse (do
      char '['
      return .list (← itemsUpTo gap true ']' inner)) <|
    orElse (do
      char '\x7b'
      return .ofMembers (← itemsUpTo gap true '\x7d' member)) scalar

/-- The setting in a document. Every array or object in another one takes a character of its own. -/
def read? (s : List Char) : Option Setting :=
  whole? (within gap (valueWithin s.length)) s

end PlainTables.Json5
