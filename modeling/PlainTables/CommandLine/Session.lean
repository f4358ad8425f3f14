import PlainTables.CommandLine.Arguments
import PlainTables.CommandLine.Detail
import PlainTables.Connection
import PlainTables.Report.Json
import PlainTables.Report.Table
import PlainTables.Script

/-!
# Sessions

A session runs statements over a connection and writes their results. The statements of an argument
are run up to the first error, which ends the run. At the prompt they are read line by line; an error
is shown, and the session goes on.
-/

namespace PlainTables.CommandLine

structure Output where
  out : String := ""
  err : String := ""
deriving DecidableEq

instance : Append Output where
  append a b := ⟨a.out ++ b.out, a.err ++ b.err⟩

structure Outcome where
  exit : UInt32
  output : Output
deriving DecidableEq

structure Session where
  connection : Connection
  json : Bool

def errorText (e : QueryError) : String :=
  "Error: " ++ e.detail ++ "\n"

def banner : String := "flatsql 0.9.0 - type \\q to quit\n"

def prompt : String := "flatsql> "

namespace Session

def report (s : Session) (tree : FileTree) (sql : String) : Except QueryError String := do
  let cursor ← s.connection.query tree sql
  let rows ← cursor.fetchAll.1
  return (if s.json then Json.records else Report.table) cursor.columns.names rows

/-- What is written for a statement: its result, in JSON with the end of its last line. -/
def answer (s : Session) (tree : FileTree) (sql : String) : Except QueryError String := do
  let text ← s.report tree sql
  return if s.json then text ++ "\n" else text

def place? (s : Session) (sql : String) : Option TablePlace :=
  match Statement.parse sql with
  | .ok statement => statement.from?.bind fun table => s.connection.settings.place? table.name
  | .error _ => none

/-- The results of statements up to the first error, and that error. -/
def execute (s : Session) (tree : FileTree) : List String → String × Option QueryError
  | [] => ("", none)
  | sql :: rest =>
    match s.answer tree sql with
    | .error e => ("", some e)
    | .ok text =>
      let (texts, failure) := s.execute tree rest
      (text ++ texts, failure)

def outputOf (s : Session) (tree : FileTree) (sql : String) : Output :=
  match s.answer tree sql with
  | .ok text => { out := text }
  | .error e => { err := "Error: " ++ e.message ++ "\n" }

/-- The output for a line at the prompt; none if the line ends the session. -/
def reply (s : Session) (tree : FileTree) (line : String) : Option Output :=
  let line := Text.trimmed line
  if line = "\\q" || Text.sameName line "quit" then none
  else some ((Script.statements line).foldl (fun o sql => o ++ s.outputOf tree sql) {})

def converse (s : Session) (tree : FileTree) : List String → Output
  | [] => { out := prompt }
  | line :: rest =>
    match s.reply tree line with
    | none => { out := prompt }
    | some output => { out := prompt } ++ output ++ s.converse tree rest

end Session

def inputLines (input : String) : List String :=
  let lines := Text.splitOn '\n' input.toList
  (if lines.getLast? = some [] then lines.dropLast else lines).map String.ofList

def connect (a : Arguments) (environment : List (String × String)) (tree : FileTree) :
    Except QueryError Session := do
  let settings ← a.settings environment tree
  return ⟨← Connection.ofSettings settings, a.json⟩

def Session.run (s : Session) (tree : FileTree) (script : Option String) (input : String) :
    Outcome :=
  match script with
  | none => ⟨0, { out := banner } ++ s.converse tree (inputLines input)⟩
  | some script =>
    match s.execute tree (Script.statements script) with
    | (out, none) => ⟨0, { out }⟩
    | (out, some e) => ⟨1, { out, err := errorText e }⟩

def run (arguments : List String) (environment : List (String × String)) (tree : FileTree)
    (input : String) : Outcome :=
  match Arguments.read arguments with
  | .error fault => ⟨2, { err := fault.message }⟩
  | .ok .help => ⟨0, { out := helpText }⟩
  | .ok (.run a) =>
    match connect a environment tree with
    | .error e => ⟨1, { err := errorText e }⟩
    | .ok session => session.run tree a.execute input

end PlainTables.CommandLine
