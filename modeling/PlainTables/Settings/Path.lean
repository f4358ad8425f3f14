import PlainTables.Settings.Tree
import PlainTables.Text.Reader
import PlainTables.Value

/-!
# Paths to settings

A name such as `tables.people.header_line` or `file_tail_parts[0]` leads through tables and lists. A
name that does not have this form stands for itself.
-/

namespace PlainTables.SettingPath

open Reader

def isNameChar (c : Char) : Bool :=
  c.isAlphanum || c = ' ' || c = '_' || c = '-'

def isBlank (c : Char) : Bool :=
  c = ' ' || c = '\t'

def name : Reader SettingStep := do
  return .name (String.ofList (← takeWhile1 isNameChar))

def index : Reader Int := do
  let _ ← takeWhile isBlank
  let minus ← optional (satisfy (· = '-'))
  let digits ← takeWhile1 Char.isDigit
  let _ ← takeWhile isBlank
  match Numeral.readInt64? (minus.toList ++ digits) with
  | some i => return i.toInt
  | none => miss

def step : Reader SettingStep :=
  orElse
    (do
      char '.'
      name)
    (do
      char '['
      let i ← index
      char ']'
      return .index i)

def ofName (s : String) : List SettingStep :=
  let steps : Reader (List SettingStep) := do
    let first ← name
    return first :: (← many step)
  match steps s.toList with
  | .ok (path, []) => path
  | _ => [.name s]

end PlainTables.SettingPath
