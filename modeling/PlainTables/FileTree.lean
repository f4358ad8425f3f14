import PlainTables.Lines.FileSet
import PlainTables.Text.Parts

/-!
# Files and directories

The files that tables are read from, as a finite tree. A path is followed from the root one name after
the other; a name of a file can only come last.
-/

namespace PlainTables

inductive FileNode where
  | file (content : List UInt8)
  | directory
deriving DecidableEq

/-- Files under the names of their directories and their own name. Of two files in one place the
later one counts. Directories exist by what they hold; only the root may be empty. -/
structure FileTree where
  files : List (List String × List UInt8)
deriving DecidableEq

namespace FileTree

/-- The names in a path; those that stay where they are are dropped. A path that starts at the top
of the file system starts with the name `/`. -/
def components (path : String) : List String :=
  let names := ((Text.splitOn '/' path.toList).map String.ofList).filter fun c =>
    !c.isEmpty && c ≠ "."
  if path.toList.head? = some '/' then "/" :: names else names

def ofFiles (files : List (String × List UInt8)) : FileTree :=
  ⟨(files.map fun (path, content) => (components path, content)).reverse⟩

/-- What is at a place that is named from the root. -/
def at? (t : FileTree) (place : List String) : Option FileNode :=
  match t.files.lookup place with
  | some content => some (.file content)
  | none =>
    if place.isEmpty || t.files.any fun (name, _) => place.isPrefixOf name then some .directory
    else none

/-- Follows names from a directory on, and gives the place reached. -/
def follow (t : FileTree) : List String → List String → Except IoFault (List String)
  | place, [] => .ok place
  | place, name :: names =>
    match t.at? place with
    | some .directory =>
      if name = ".." then
        if place.isEmpty then .error .noSuchFile else t.follow place.dropLast names
      else
        match t.at? (place ++ [name]) with
        | some _ => t.follow (place ++ [name]) names
        | none => .error .noSuchFile
    | some (.file _) => .error .notADirectory
    | none => .error .noSuchFile

/-- Follows a path. One that ends in a slash has to lead to a directory. -/
def node (t : FileTree) (path : String) : Except IoFault (List String × FileNode) := do
  let place ← t.follow [] (components path)
  match t.at? place with
  | some (.file content) =>
    if path.toList.getLast? = some '/' then .error .notADirectory else .ok (place, .file content)
  | some .directory => .ok (place, .directory)
  | none => .error .noSuchFile

def file? (t : FileTree) (path : String) : Option (List UInt8) :=
  match t.node path with
  | .ok (_, .file content) => some content
  | _ => none

def namesUnder (t : FileTree) (place : List String) : List String :=
  (t.files.filterMap fun (name, _) =>
    if place.isPrefixOf name then (name.drop place.length).head? else none).eraseDups

def entries (t : FileTree) (path : String) : Except IoFault (List DirectoryEntry) := do
  let (place, node) ← t.node path
  match node with
  | .file _ => .error .notADirectory
  | .directory =>
    return (t.namesUnder place).map fun name =>
      match t.at? (place ++ [name]) with
      | some (.file content) => ⟨name, some content⟩
      | _ => ⟨name, none⟩

end FileTree

def FileSetLines.ofTree (o : FileSetLayout) (pattern : String) (tree : FileTree)
    (directory : String) : Except QueryError FileSetLines :=
  match tree.entries directory with
  | .ok entries => ofDirectory o pattern entries
  | .error fault => do
    let _ ← ofDirectory o pattern []
    .error (.io fault)

end PlainTables
