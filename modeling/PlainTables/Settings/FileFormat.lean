import PlainTables.Ini.Document
import PlainTables.Json.Document
import PlainTables.Json5.Document
import PlainTables.Ron.Document
import PlainTables.Toml.Document
import PlainTables.Yaml.Document

/-!
# Formats of settings files

The format of a file of settings shows in the end of its name.
-/

namespace PlainTables.Settings

inductive FileFormat where
  | toml
  | json
  | yaml
  | ini
  | ron
  | json5
deriving DecidableEq

namespace FileFormat

def extensions : List (String × FileFormat) :=
  [("toml", toml), ("json", json), ("yaml", yaml), ("yml", yaml), ("ini", ini), ("ron", ron),
    ("json5", json5)]

def ofExtension? (extension : String) : Option FileFormat :=
  extensions.lookup extension

def read? : FileFormat → List Char → Option Setting
  | toml => Toml.read?
  | json => Json.read?
  | yaml => Yaml.read?
  | ini => Ini.read?
  | ron => Ron.read?
  | json5 => Json5.read?

end FileFormat

end PlainTables.Settings
