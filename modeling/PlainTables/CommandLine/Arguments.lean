import PlainTables.FileTree
import PlainTables.Settings.Load

/-!
# Arguments of the command line

An option has a long and a short name and takes a value, which stands in the same argument or the
next one. No option may be given twice.
-/

namespace PlainTables.CommandLine

structure Arguments where
  config : Option String := none
  dir : Option String := none
  separator : Option Char := none
  execute : Option String := none
  json : Bool := false
deriving DecidableEq

inductive Request where
  | help
  | run (a : Arguments)
deriving DecidableEq

inductive ValueOption where
  | config
  | dir
  | separator
  | execute
deriving DecidableEq

inductive UsageFault where
  | unexpectedArgument (argument : String)
  | unexpectedValue (option value : String)
  | missingValue (option : ValueOption)
  | invalidSeparator (value : String)
  | repeated (option : Option ValueOption)
deriving DecidableEq

namespace ValueOption

def all : List ValueOption := [config, dir, separator, execute]

def name : ValueOption → String
  | config => "config"
  | dir => "dir"
  | separator => "separator"
  | execute => "execute"

/-- The first letter of the name is the short name. -/
def letter (o : ValueOption) : Option Char :=
  o.name.toList.head?

def ofName? (name : String) : Option ValueOption :=
  all.find? (·.name = name)

def ofLetter? (c : Char) : Option ValueOption :=
  all.find? (·.letter = some c)

def usage (o : ValueOption) : String :=
  "--" ++ o.name ++ " <" ++ o.name.map Char.toUpper ++ ">"

end ValueOption

namespace UsageFault

def message (fault : UsageFault) : String :=
  let problem := match fault with
    | unexpectedArgument argument => "unexpected argument '" ++ argument ++ "' found"
    | unexpectedValue option value =>
      "unexpected value '" ++ value ++ "' for '" ++ option ++ "' found; no more were expected"
    | missingValue option =>
      "a value is required for '" ++ option.usage ++ "' but none was supplied"
    | invalidSeparator value =>
      "invalid value '" ++ value ++ "' for '" ++ ValueOption.separator.usage ++ "'"
    | repeated option =>
      "the argument '" ++ (option.map ValueOption.usage).getD "--json" ++
        "' cannot be used multiple times"
  "error: " ++ problem ++ "\n\nUsage: flatsql [OPTIONS]\n\nFor more information, try '--help'.\n"

end UsageFault

def helpText : String :=
  "Run SQL queries against CSV and other flat files\n\n" ++
  "Usage: flatsql [OPTIONS]\n\n" ++
  "Options:\n" ++
  "  -c, --config <CONFIG>        TOML configuration file\n" ++
  "  -d, --dir <DIR>              Directory holding the table files\n" ++
  "  -s, --separator <SEPARATOR>  Field separator\n" ++
  "  -e, --execute <EXECUTE>      Run these statements and exit\n" ++
  "      --json                   Print results as JSON\n" ++
  "  -h, --help                   Print help\n"

namespace Arguments

def has (a : Arguments) : ValueOption → Bool
  | .config => a.config.isSome
  | .dir => a.dir.isSome
  | .separator => a.separator.isSome
  | .execute => a.execute.isSome

/-- Gives a value to an option. Paths are not empty, and a separator is one character. -/
def set (a : Arguments) (o : ValueOption) (value : String) : Except UsageFault Arguments :=
  if a.has o then .error (.repeated (some o))
  else
    match o with
    | .config =>
      if value.isEmpty then .error (.missingValue o) else .ok { a with config := some value }
    | .dir => if value.isEmpty then .error (.missingValue o) else .ok { a with dir := some value }
    | .separator =>
      match value.toList with
      | [c] => .ok { a with separator := some c }
      | _ => .error (.invalidSeparator value)
    | .execute => .ok { a with execute := some value }

/-- The argument cannot be the value of an option. -/
def isOption (argument : String) : Bool :=
  match argument.toList with
  | '-' :: _ :: _ => true
  | _ => false

def splitValue (s : List Char) : String × Option String :=
  match s.dropWhile (· ≠ '=') with
  | _ :: value => (String.ofList (s.takeWhile (· ≠ '=')), some (String.ofList value))
  | [] => (String.ofList s, none)

inductive Word where
  | help
  | json
  /-- The option with its value, if the argument holds it. -/
  | option (o : ValueOption) (value : Option String)
  /-- Only arguments that are no options may follow. -/
  | endOfOptions
  | fault (f : UsageFault)

/-- Reads an argument that is not the value of the one before it. -/
def word (argument : String) : Word :=
  match argument.toList with
  | ['-', '-'] => .endOfOptions
  | '-' :: '-' :: s =>
    let (name, value) := splitValue s
    match ValueOption.ofName? name, name, value with
    | some o, _, _ => .option o value
    | none, "json", none => .json
    | none, "help", none => .help
    | none, "json", some v => .fault (.unexpectedValue "--json" v)
    | none, "help", some v => .fault (.unexpectedValue "--help" v)
    | none, _, _ => .fault (.unexpectedArgument argument)
  | '-' :: c :: s =>
    match ValueOption.ofLetter? c, s with
    | some o, [] => .option o none
    | some o, '=' :: value => .option o (some (String.ofList value))
    | some o, value => .option o (some (String.ofList value))
    | none, _ => if c = 'h' then .help else .fault (.unexpectedArgument argument)
  | _ => .fault (.unexpectedArgument argument)

/-- Reads the arguments from left to right; the first fault or call for help ends it. -/
def readFrom (a : Arguments) : List String → Except UsageFault Request
  | [] => .ok (.run a)
  | argument :: rest =>
    match word argument with
    | .help => .ok .help
    | .fault f => .error f
    | .json =>
      if a.json then .error (.repeated none) else ({ a with json := true } : Arguments).readFrom rest
    | .endOfOptions =>
      match rest with
      | [] => .ok (.run a)
      | extra :: _ => .error (.unexpectedArgument extra)
    | .option o (some value) =>
      match a.set o value with
      | .ok a => a.readFrom rest
      | .error f => .error f
    | .option o none =>
      match rest with
      | [] => .error (.missingValue o)
      | value :: rest =>
        if isOption value then .error (.missingValue o)
        else
          match a.set o value with
          | .ok a => a.readFrom rest
          | .error f => .error f

def read (arguments : List String) : Except UsageFault Request :=
  readFrom {} arguments

/-- The part of a file name after its last point, if there is something before it. -/
def extension? (path : String) : Option String :=
  match (FileTree.components path).getLast? with
  | none => none
  | some name =>
    let parts := Text.splitOn '.' name.toList
    if parts.length ≤ 1 ∨ (parts.length = 2 ∧ parts.head? = some []) then none
    else parts.getLast?.map String.ofList

def withoutSlashes (path : String) : String :=
  String.ofList ((path.toList.reverse.dropWhile (· = '/')).reverse)

/-- The places where a file of settings is looked for, with its format if the name has the end of
one: under its own name, and then with the end of the name of each format added to it. -/
def settingsPlaces (path : String) : List (String × Option Settings.FileFormat) :=
  (path, (extension? path).bind Settings.FileFormat.ofExtension?) ::
    Settings.FileFormat.extensions.map fun (extension, format) =>
      (withoutSlashes path ++ "." ++ extension, some format)

def settingsFile? (tree : FileTree) (path : String) : Option Settings.File := do
  let (content, format) ← (settingsPlaces path).findSome? fun (place, format) =>
    (tree.file? place).map (·, format)
  return { format := ← format, content }

/-- The settings of a run: arguments count before the environment, and this before the file. -/
def settings (a : Arguments) (environment : List (String × String)) (tree : FileTree) :
    Except QueryError Settings := do
  let file ← match a.config with
    | none => pure none
    | some path =>
      match settingsFile? tree path with
      | some file => pure (some file)
      | none => .error (.invalidConfiguration .settings)
  let s ← Settings.load file environment
  return { s with
    path := a.dir.getD s.path
    separator := a.separator.getD s.separator }

end Arguments

end PlainTables.CommandLine
