import PlainTables.Double.Decimal
import PlainTables.Settings.Tree
import PlainTables.Text.Characters
import PlainTables.Text.Reader
import PlainTables.Value

/-!
# Scalars of YAML

Texts in quotes and without them, and lists and tables in brackets. A text without quotes is a number
or a truth value if it reads as one.
-/

namespace PlainTables.Yaml

open Reader Text

def isBlank (c : Char) : Bool :=
  c = ' ' || c = '\t'

def stripped (s : List Char) : List Char :=
  ((s.dropWhile isBlank).reverse.dropWhile isBlank).reverse

def isSpecialNumber (s : String) : Bool :=
  [".inf", ".Inf", ".INF", "+.inf", "+.Inf", "+.INF", "-.inf", "-.Inf", "-.INF", ".nan", "NaN",
    ".NAN"].contains s

def basedInteger? : List Char → Option Int64
  | '0' :: letter :: ds =>
    let base := if letter = 'x' then 16 else if letter = 'o' then 8 else 0
    let n := ofDigits base ds
    if base = 0 || ds.isEmpty || !ds.all (isDigitOf base) || Nat.pow 2 63 ≤ n then none
    else some (Int64.ofNat n)
  | _ => none

/-- The setting of a text without quotes; none for a word for a number that no setting can be. -/
def plainSetting? (s : List Char) : Option Setting :=
  let w := String.ofList s
  match basedInteger? s with
  | some i => some (.integer i)
  | none =>
    if s.isEmpty || w = "~" || w = "null" then some .absent
    else if w = "true" then some (.boolean true)
    else if w = "false" then some (.boolean false)
    else
      match Numeral.readInt64? s with
      | some i => some (.integer i)
      | none =>
        match Double.read? s <|> Double.ofWord? s with
        | some d => if w = "NaN" then some (.double .nan) else some (.double d)
        | none => if isSpecialNumber w then none else some (.text w)

def lineEnds : List Char → Nat
  | '\n' :: s => lineEnds s + 1
  | c :: s => if isBlank c then lineEnds s else 0
  | [] => 0

/-- The end of a line in a text that goes on, with the blanks around it: one is a blank, and of more
all but one stay. -/
def fold : Reader (List Char) := fun s =>
  let blanks := s.takeWhile isBlank
  match s.dropWhile isBlank with
  | '\n' :: rest =>
    let more := lineEnds rest
    .ok (if more = 0 then [' '] else List.replicate more '\n',
      rest.dropWhile fun c => c = '\n' || isBlank c)
  | rest => if blanks.isEmpty then .error (.miss s) else .ok (blanks, rest)

/-- A text between single quotes, in which two of them stand for one. -/
def singleQuoted : Reader (List Char) := do
  char '\''
  let parts ← many <| orElse fold <| orElse (do
    exactly "''"
    return ['\'']) (do return [← satisfy fun c => c ≠ '\''])
  char '\''
  return parts.flatten

def codePoint (size : Nat) : Reader (List Char) :=
  filterMap (times (satisfy (isDigitOf 16)) size) fun ds =>
    (charAt? (ofDigits 16 ds)).map fun c => [c]

/-- What a backslash stands for together with what follows it. -/
def escape : Reader (List Char) := do
  char '\\'
  match ← satisfy fun _ => true with
  | '0' => return ['\x00']
  | 'a' => return ['\x07']
  | 'b' => return ['\x08']
  | 't' | '\t' => return ['\t']
  | 'n' => return ['\n']
  | 'v' => return ['\x0b']
  | 'f' => return ['\x0c']
  | 'r' => return ['\r']
  | 'e' => return ['\x1b']
  | ' ' => return [' ']
  | '"' => return ['"']
  | '\'' => return ['\'']
  | '/' => return ['/']
  | '\\' => return ['\\']
  | 'N' => return ['\u0085']
  | '_' => return ['\u00a0']
  | 'L' => return ['\u2028']
  | 'P' => return ['\u2029']
  | 'x' => codePoint 2
  | 'u' => codePoint 4
  | 'U' => codePoint 8
  | '\n' => do
    let _ ← takeWhile isBlank
    return []
  | _ => miss

def doubleQuoted : Reader (List Char) := do
  char '"'
  let parts ← many <| orElse fold <| orElse escape (do
    return [← satisfy fun c => c ≠ '"' && c ≠ '\\'])
  char '"'
  return parts.flatten

def quoted : Reader (List Char) :=
  orElse singleQuoted doubleQuoted

/-- The characters that stand for lists and tables in brackets. -/
def isFlowSign (c : Char) : Bool :=
  c = ',' || c = '[' || c = ']' || c = '\x7b' || c = '\x7d'

/-- The characters with which no text without quotes begins. -/
def isIndicator (c : Char) : Bool :=
  isFlowSign c || "#&*!|>'\"%@\x60".toList.contains c

/-- A hyphen, question mark or colon begins a text only before another character. -/
def beginsPlain (inFlow : Bool) : List Char → Bool
  | [] => false
  | c :: s =>
    if c = '-' || c = '?' || c = ':' then
      match s with
      | d :: _ => !isBlank d && d ≠ '\n' && !(inFlow && isFlowSign d)
      | [] => false
    else !isIndicator c && !isBlank c && c ≠ '\n'

/-- The characters of a text without quotes in a line. It ends before a comment, and before a colon
that stands at the end of a word. -/
def plainRun (inFlow : Bool) : List Char → List Char
  | [] => []
  | c :: s =>
    if c = '\n' || (inFlow && isFlowSign c) then []
    else
      match s with
      | [] => if c = ':' then [] else [c]
      | d :: _ =>
        if c = ':' && (isBlank d || d = '\n' || (inFlow && isFlowSign d)) then []
        else if isBlank c && d = '#' then []
        else c :: plainRun inFlow s

def plain (inFlow : Bool) : Reader (List Char) := fun s =>
  if beginsPlain inFlow s then
    let run := plainRun inFlow s
    .ok (stripped run, s.drop run.length)
  else .error (.miss s)

def comment : Reader Unit := do
  char '#'
  let _ ← takeWhile (· ≠ '\n')

def gap : Reader Unit := do
  let _ ← many (orElse (do let _ ← takeWhile1 fun c => isBlank c || c = '\n') comment)

def flowWithin : Nat → Reader Setting
  | 0 => miss
  | depth + 1 =>
    let inner := flowWithin depth
    let member : Reader (String × Setting) := do
      let name ← orElse quoted (plain true)
      gap
      let v ← optional (do
        char ':'
        gap
        optional inner)
      return (String.ofList name, (v.getD none).getD .absent)
    orElse (do
      char '['
      return .list (← itemsUpTo gap true ']' inner)) <|
    orElse (do
      char '\x7b'
      return .ofMembers (← itemsUpTo gap true '\x7d' member)) <|
    orElse (do return .text (String.ofList (← quoted))) (filterMap (plain true) plainSetting?)

end PlainTables.Yaml
