import PlainTables.Settings.Tree
import PlainTables.Text.Characters
import PlainTables.Text.Reader

/-!
# INI documents

Lines of names and texts, which belong to the section that begins before them. Comments take whole
lines. A backslash stands for another character together with the one after it, and the end of a
line behind it does not count.
-/

namespace PlainTables.Ini

open Reader Text

def escape : Reader (List Char) := do
  char '\\'
  match ← satisfy fun _ => true with
  | '0' => return ['\x00']
  | 'a' => return ['\x07']
  | 'b' => return ['\x08']
  | 't' => return ['\t']
  | 'r' => return ['\r']
  | 'n' => return ['\n']
  | '\n' => return []
  | 'x' => do
    let c ← filterMap (times (satisfy (isDigitOf 16)) 4) fun ds => charAt? (ofDigits 16 ds)
    return [c]
  | c => return [c]

/-- A text up to a character of a class, which stays. -/
def textUntil (isEnd : Char → Bool) : Reader (List Char) := do
  let parts ← many (orElse escape (do
    let c ← satisfy fun c => !isEnd c && c ≠ '\\'
    return [c]))
  return parts.flatten

/-- A text in quotes, over several lines if need be. -/
def quoted : Reader (List Char) := do
  let quote ← satisfy fun c => c = '"' || c = '\''
  let s ← textUntil (· = quote)
  char quote
  return s

/-- The rest of a line, in which every backslash has a meaning. -/
def lineRest : Reader (List Char) := do
  let s ← textUntil fun c => c = '\n' || c = '\r'
  notFollowedBy (· = '\\')
  return s

/-- The text of a name: texts in quotes, and the rest of the line without the blanks at its ends. -/
def value : Reader String := do
  let _ ← takeWhile fun c => isBlank c && c ≠ '\n' && c ≠ '\r'
  let front ← many quoted
  let rest ← lineRest
  let rest := if front.isEmpty then trim rest else trimRight rest
  return String.ofList (front.flatten ++ rest)

def heading : Reader String := do
  char '['
  let s ← textUntil (· = ']')
  char ']'
  return String.ofList (trim s)

def entry : Reader (String × String) := do
  let name ← filterMap (textUntil fun c => c = '=' || c = ':') fun s =>
    if s.isEmpty then none else some (String.ofList (trim s))
  let _ ← satisfy fun c => c = '=' || c = ':'
  return (name, ← value)

structure Draft where
  settings : List (String × Setting) := []
  /-- The section that the next names belong to; none at the top. -/
  current : Option (String × List (String × Setting)) := none

namespace Draft

def all (d : Draft) : List (String × Setting) :=
  match d.current with
  | none => d.settings
  | some (name, es) => Setting.insert name (.table es) d.settings

def begin (d : Draft) (name : String) : Draft :=
  ⟨d.all, some (name, [])⟩

def add (d : Draft) (name text : String) : Draft :=
  match d.current with
  | none => { d with settings := Setting.insert name (.text text) d.settings }
  | some (own, es) => { d with current := some (own, Setting.insert name (.text text) es) }

end Draft

/-- Reads at most this many comments, headings and entries; `fresh` at the start of a line. -/
def readFrom : Nat → Bool → Draft → List Char → Option Draft
  | 0, _, _, _ => none
  | n + 1, fresh, d, s =>
    let gap := s.takeWhile isBlank
    let fresh := if gap.isEmpty then fresh else gap.getLast? = some '\n'
    match s.dropWhile isBlank with
    | [] => some d
    | c :: rest =>
      if c = ';' || c = '#' then
        if fresh then readFrom n true d ((rest.dropWhile (· ≠ '\n')).drop 1) else none
      else if c = '[' then
        match heading (c :: rest) with
        | .ok (name, rest) => readFrom n false (d.begin name) rest
        | .error _ => none
      else
        match entry (c :: rest) with
        | .ok ((name, text), rest) => readFrom n false (d.add name text) rest
        | .error _ => none

def read? (s : List Char) : Option Setting :=
  (readFrom (s.length + 1) true {} s).map fun d => .table d.all

end PlainTables.Ini
