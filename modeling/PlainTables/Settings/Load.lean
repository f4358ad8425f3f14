import PlainTables.Settings.Decode
import PlainTables.Settings.Environment
import PlainTables.Settings.FileFormat
import PlainTables.Text.Utf8

/-!
# Loading settings

Settings come from a file and from the environment; those in the environment count before those in
the file, and these before the defaults.
-/

namespace PlainTables.Settings

structure File where
  format : FileFormat
  content : List UInt8

/-- The settings in a file, which has to hold a table. A name at the top of it may be a path. -/
def File.read? (f : File) : Option Setting := do
  match ← f.format.read? (← Utf8.decode? f.content) with
  | .table es =>
    return es.foldl (fun settings (name, value) =>
      Setting.write value (SettingPath.ofName name) settings) (.table [])
  | _ => none

/-- The settings in a file, if there is one, and in the environment. -/
def load (file : Option File) (environment : List (String × String)) :
    Except QueryError Settings :=
  let written := match file with
    | some f => f.read?
    | none => some (.table [])
  match written.bind fun s => (Environment.write environment s).toSettings? with
  | some settings => .ok settings
  | none => .error (.invalidConfiguration .settings)

end PlainTables.Settings
