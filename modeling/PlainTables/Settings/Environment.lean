import PlainTables.Double.Decimal
import PlainTables.Settings.Path

/-!
# Settings in the environment

A variable whose name starts with `FLATSQL_`, in any case of its letters, holds a setting. Two
underscores in the rest of the name stand for a step into a table.
-/

namespace PlainTables.Environment

def start : String := "flatsql_"

def pointed : List Char → List Char
  | '_' :: '_' :: s => '.' :: pointed s
  | c :: s => c :: pointed s
  | [] => []

def settingName? (key : String) : Option String :=
  let name := (Text.lowercase key).toList
  if start.toList.isPrefixOf name then some (String.ofList (pointed (name.drop start.length)))
  else none

/-- The setting that a value stands for: a truth value, an integer or a number where it reads as one,
else its text. -/
def setting (value : String) : Setting :=
  let lower := Text.lowercase value
  if lower = "true" then .boolean true
  else if lower = "false" then .boolean false
  else
    match Numeral.readInt64? value.toList with
    | some i => .integer i
    | none =>
      match Double.read? value.toList <|> Double.ofWord? value.toList with
      | some d => .double d
      | none => .text value

/-- Writes the settings in the environment over others. -/
def write (environment : List (String × String)) (settings : Setting) : Setting :=
  environment.foldl (fun s (key, value) =>
    match settingName? key with
    | some name => Setting.write (setting value) (SettingPath.ofName name) s
    | none => s) settings

end PlainTables.Environment
