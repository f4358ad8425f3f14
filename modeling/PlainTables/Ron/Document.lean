import PlainTables.Double.Decimal
import PlainTables.Settings.Tree
import PlainTables.Text.Characters
import PlainTables.Text.Reader
import PlainTables.Value

/-!
# RON documents

Structures with named fields between parentheses, maps, lists and scalars. The names of structures do
not count, and an optional value is written with its presence or its absence.
-/

namespace PlainTables.Ron

open Reader Text

/-- What follows the end of comments that may stand in each other. -/
def afterComments? : Nat → List Char → Option (List Char)
  | 0, s => some s
  | n + 1, '*' :: '/' :: s => afterComments? n s
  | n, '/' :: '*' :: s => afterComments? (n + 1) s
  | n, _ :: s => afterComments? n s
  | _, [] => none

def comment : Reader Unit :=
  orElse (do
    exactly "//"
    let _ ← takeWhile (· ≠ '\n')) (do
    exactly "/*"
    match afterComments? 1 (← get) with
    | some s => set s
    | none => miss)

def gap : Reader Unit := do
  let _ ← many (orElse comment (do let _ ← takeWhile1 isBlank))

def ofHexDigits (p : Reader (List Char)) : Reader Char :=
  filterMap p fun ds => charAt? (ofDigits 16 ds)

def escape : Reader Char := do
  char '\\'
  match ← satisfy fun _ => true with
  | 'n' => return '\n'
  | 'r' => return '\r'
  | 't' => return '\t'
  | '0' => return '\x00'
  | 'x' => ofHexDigits (times (satisfy (isDigitOf 16)) 2)
  | 'u' => ofHexDigits (do
    char '\x7b'
    let ds ← takeWhile1 (isDigitOf 16)
    char '\x7d'
    return ds)
  | c => if c = '"' || c = '\'' || c = '\\' then return c else miss

def quotedText : Reader String := do
  char '"'
  let cs ← many (orElse (satisfy fun c => c ≠ '"' && c ≠ '\\') escape)
  char '"'
  return String.ofList cs

/-- The front of a text up to a mark, and what follows the mark. -/
def splitAt? (mark : List Char) : List Char → Option (List Char × List Char)
  | [] => none
  | c :: s =>
    if mark.isPrefixOf (c :: s) then some ([], (c :: s).drop mark.length)
    else (splitAt? mark s).map fun (front, rest) => (c :: front, rest)

/-- A text that is taken as it stands, between quotes with the same number of hash signs. -/
def rawText : Reader String := do
  char 'r'
  let hashes ← takeWhile (· = '#')
  char '"'
  match splitAt? ('"' :: hashes) (← get) with
  | some (front, rest) =>
    set rest
    return String.ofList front
  | none => miss

def character : Reader String := do
  char '\''
  let c ← orElse (satisfy fun c => c ≠ '\\' && c ≠ '\'') escape
  char '\''
  return String.singleton c

/-- Digits with underscores among them, without these. -/
def digitRun (base : Nat) : Reader (List Char) := do
  let first ← satisfy (isDigitOf base)
  let rest ← takeWhile fun c => isDigitOf base c || c = '_'
  return first :: rest.filter (· ≠ '_')

def basedInteger (sign : List Char) (letter : Char) (base : Nat) : Reader Setting := do
  char '0'
  char letter
  filterMap (digitRun base) fun ds =>
    (Numeral.readInt64? (sign ++ Nat.toDigits 10 (ofDigits base ds))).map Setting.integer

def decimal (sign : List Char) : Reader Setting :=
  filterMap (do
    let whole ← optional (digitRun 10)
    let f ← optional (do
      char '.'
      return '.' :: ((← optional (digitRun 10)).getD []))
    let e ← optional (do
      let _ ← satisfy fun c => c = 'e' || c = 'E'
      let s ← optional (satisfy fun c => c = '+' || c = '-')
      return 'e' :: (s.toList ++ (← digitRun 10)))
    return (whole.getD [], f.getD [] ++ e.getD [])) fun (whole, rest) =>
      if rest.isEmpty then (Numeral.readInt64? (sign ++ whole)).map Setting.integer
      else (Double.read? (sign ++ whole ++ rest)).map Setting.double

def isNameChar (c : Char) : Bool :=
  c.isAlphanum || c = '_'

def name : Reader String := do
  let first ← satisfy fun c => c.isAlpha || c = '_'
  let rest ← takeWhile isNameChar
  return String.ofList (first :: rest)

def word (w : String) (s : Setting) : Reader Setting := do
  exactly w
  notFollowedBy isNameChar
  return s

def numeral : Reader Setting := do
  let sign ← optional (satisfy fun c => c = '+' || c = '-')
  let sign := sign.toList
  orElse (word "inf" (.double (.infinity (sign = ['-'])))) <|
  orElse (word "NaN" (.double .nan)) <|
  orElse (basedInteger sign 'x' 16) <|
  orElse (basedInteger sign 'o' 8) <|
  orElse (basedInteger sign 'b' 2) (decimal sign)

def scalar : Reader Setting :=
  orElse (do return .text (← quotedText)) <|
  orElse (do return .text (← rawText)) <|
  orElse (do return .text (← character)) <|
  orElse (word "true" (.boolean true)) <|
  orElse (word "false" (.boolean false)) <|
  orElse (word "None" .absent) numeral

/-- What stands in parentheses: named fields, a list, or nothing. -/
def parenthesised (value : Reader Setting) : Reader Setting := do
  char '('
  let field : Reader (String × Setting) := do
    let n ← name
    within gap (char ':')
    return (n, ← value)
  orElse (do
    gap
    char ')'
    return .absent) <|
  orElse (do return .ofMembers (← itemsUpTo gap true ')' field)) (do return .list (← itemsUpTo gap true ')' value))

def valueWithin : Nat → Reader Setting
  | 0 => scalar
  | depth + 1 =>
    let inner := valueWithin depth
    let member : Reader (String × Setting) := do
      let n ← orElse quotedText (orElse rawText character)
      within gap (char ':')
      return (n, ← inner)
    orElse (do
      char '['
      return .list (← itemsUpTo gap true ']' inner)) <|
    orElse (do
      char '\x7b'
      return .ofMembers (← itemsUpTo gap true '\x7d' member)) <|
    orElse (do
      exactly "Some"
      within gap (char '(')
      let v ← inner
      gap
      let _ ← optional (char ',')
      gap
      char ')'
      return v) <|
    orElse scalar <|
    orElse (parenthesised inner) (do
      let _ ← filterMap name fun n => if n = "Some" then none else some n
      gap
      parenthesised inner)

/-- The setting in a document. Every value in another one takes a character of its own. -/
def read? (s : List Char) : Option Setting :=
  whole? (within gap (valueWithin s.length)) s

end PlainTables.Ron
