import PlainTables.CommandLine.Session

/-!
# The program

Reads the files that a session needs and writes its output.
-/

namespace PlainTables.CommandLine

def readFile (path : String) : IO (List (String × List UInt8)) := do
  try return [(path, (← IO.FS.readBinFile path).toList)]
  catch _ => return []

def readDirectory (path : String) : IO (List (String × List UInt8)) := do
  try
    let place ← IO.FS.realPath (if path.isEmpty then "." else path)
    let entries ← place.readDir
    let start := if path.isEmpty then "" else path ++ "/"
    let files ← entries.toList.mapM fun e => readFile (start ++ e.fileName)
    return files.flatten
  catch _ => return []

def readTables (s : Session) (statements : List String) : IO FileTree := do
  let files ← (statements.filterMap s.place?).mapM fun
    | .file path => readFile path
    | .directory path => readDirectory path
  return .ofFiles files.flatten

def readSettings (a : Arguments) : IO FileTree := do
  match a.config with
  | none => return .ofFiles []
  | some path =>
    let files ← (Arguments.settingsPlaces path).mapM fun (place, _) => readFile place
    return .ofFiles files.flatten

def readEnvironment : IO (List (String × String)) := do
  let files ← readFile "/proc/self/environ"
  let entries := files.flatMap fun (_, bytes) => Text.splitOn '\x00' (Utf8.decode bytes)
  return entries.map fun entry =>
    (String.ofList (entry.takeWhile (· ≠ '=')), String.ofList ((entry.dropWhile (· ≠ '=')).drop 1))

def write (o : Output) : IO Unit := do
  IO.print o.out
  (← IO.getStdout).flush
  IO.eprint o.err

def executeAll (s : Session) (statements : List String) : IO UInt32 := do
  for sql in statements do
    let outcome := s.run (← readTables s [sql]) (some sql) ""
    write outcome.output
    if outcome.exit ≠ 0 then return outcome.exit
  return 0

partial def converse (s : Session) : IO Unit := do
  write { out := prompt }
  let line ← (← IO.getStdin).getLine
  if line.isEmpty then return
  match s.reply (← readTables s (Script.statements line)) line with
  | none => return
  | some output =>
    write output
    converse s

/-- Tables are looked for in the directory that the path leads to. -/
def resolvePath (s : Session) : IO Session := do
  let settings := s.connection.settings
  try
    let path ← IO.FS.realPath settings.path
    let settings := { settings with path := path.toString }
    return { s with connection := { s.connection with settings } }
  catch _ => return s

end PlainTables.CommandLine

open PlainTables PlainTables.CommandLine in
def main (arguments : List String) : IO UInt32 := do
  match Arguments.read arguments with
  | .ok (.run a) =>
    match connect a (← readEnvironment) (← readSettings a) with
    | .error e =>
      write { err := errorText e }
      return 1
    | .ok session =>
      let session ← resolvePath session
      match a.execute with
      | some script => executeAll session (Script.statements script)
      | none =>
        write { out := banner }
        converse session
        return 0
  | _ =>
    let outcome := CommandLine.run arguments [] (.ofFiles []) ""
    write outcome.output
    return outcome.exit
