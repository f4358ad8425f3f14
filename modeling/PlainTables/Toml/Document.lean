import PlainTables.Toml.Scalar
import PlainTables.Toml.Table

/-!
# TOML documents

A document is read line by line into a table of settings. A value may stand inside arrays and inline
tables.
-/

namespace PlainTables.Toml

open Reader

def isBareKeyChar (c : Char) : Bool :=
  c.isAlphanum || c = '_' || c = '-'

def simpleKey : Reader String :=
  orElse (do return String.ofList (← takeWhile1 isBareKeyChar)) <|
    orElse (lineText '"') (lineText '\'')

/-- How many values may stand inside each other, and of how many names a key may consist. -/
def nestingLimit : Nat := 79

def key : Reader (List String) :=
  filterMap (separated (char '.') (do
    blanks
    let name ← simpleKey
    blanks
    return name)) fun path => if path.length ≤ nestingLimit then some path else none

def keyValue (value : Reader Setting) : Reader (List String × Setting) := do
  let path ← key
  char '='
  blanks
  return (path, ← value)

def commaSeparated {α : Type} (item : Reader α) : Reader (List α) := do
  return (← optional (separated (char ',') item)).getD []

/-- An array, which may go over several lines and have a comma at its end. -/
def array (value : Reader Setting) : Reader Setting := do
  char '['
  let items ← commaSeparated (do
    gap
    let v ← value
    gap
    return v)
  if !items.isEmpty then
    let _ ← optional (char ',')
  gap
  char ']'
  return .list items

def inlineTable (value : Reader Setting) : Reader Setting := do
  char '\x7b'
  let pairs ← commaSeparated (do
    let pair ← keyValue value
    blanks
    return pair)
  blanks
  char '\x7d'
  match pairs.foldlM (fun es (path, v) => Draft.addKey v path es) [] with
  | some es => return .table (Draft.settings es)
  | none => miss

/-- A value with at most this many arrays and inline tables around each of its parts. -/
def valueWithin : Nat → Reader Setting
  | 0 => scalar
  | depth + 1 =>
    let inner := valueWithin depth
    orElse (array inner) <| orElse (inlineTable inner) scalar

def value : Reader Setting := valueWithin nestingLimit

inductive Line where
  | empty
  | keyValue (path : List String) (v : Setting)
  | tableHeader (path : List String)
  | itemHeader (path : List String)

/-- The header of a table of an array. -/
def itemHeader : Reader Line := do
  exactly "[["
  let path ← key
  exactly "]]"
  return .itemHeader path

def tableHeader : Reader Line := do
  char '['
  let path ← key
  char ']'
  return .tableHeader path

def line : Reader Line := do
  blanks
  let l ← orElse itemHeader <| orElse tableHeader <|
    orElse (do
      let (path, v) ← keyValue value
      return .keyValue path v) (pure .empty)
  lineEnd
  return l

structure Document where
  entries : List (String × Draft) := []
  /-- The table that the next keys belong to. -/
  current : List String := []

def Document.add? (d : Document) : Line → Option Document
  | .empty => some d
  | .keyValue path v =>
    (Draft.modifyAt (Draft.addKey v path) d.current d.entries).map fun es => { d with entries := es }
  | .tableHeader path => (Draft.openAt Draft.openTable? path d.entries).map (⟨·, path⟩)
  | .itemHeader path => (Draft.openAt Draft.openItem? path d.entries).map (⟨·, path⟩)

def readLines : Nat → List Char → Document → Option Document
  | _, [], d => some d
  | 0, _ :: _, _ => none
  | n + 1, s, d =>
    match line s with
    | .ok (l, rest) => (d.add? l).bind (readLines n rest)
    | .error _ => none

/-- The table of settings in a document. A mark of the byte order in front does not count. -/
def read? (s : List Char) : Option Setting :=
  let s := if s.head? = some '\ufeff' then s.tail else s
  (readLines s.length s {}).map fun d => .table (Draft.settings d.entries)

end PlainTables.Toml
