import PlainTables.Coercion
import PlainTables.FileTree
import PlainTables.Query.Cursor
import PlainTables.Records
import PlainTables.Records.Melted
import PlainTables.Records.Memory
import PlainTables.Records.Tagged
import PlainTables.Records.Text
import PlainTables.Settings
import PlainTables.Statement.Parse

/-!
# Connections

A connection holds settings that have been checked. Every query opens its table anew, from a file, a
set of files, or bytes that the caller supplies.
-/

namespace PlainTables

abbrev TableReader := String → Except QueryError (List UInt8)

/-- Settings that have been checked, with what they name. -/
structure Connection where
  settings : Settings
  cipher : Option Cipher
  fixedWidths : Option FixedWidths
  /-- Supplies the tables in place of files. -/
  reader : Option TableReader := none

abbrev FileTable := TextTable ByteLines ⊕ TaggedTable (TextTable FileSetLines)

/-- What a query runs over: a record in memory, a table in text, or a transposed one. -/
abbrev Table := MemoryTable ⊕ FileTable ⊕ MeltedTable FileTable

inductive TablePlace where
  | file (path : String)
  | directory (path : String)
deriving DecidableEq

namespace Settings

/-- The layout of a table in its text. A transposed table's header is that of the melted records. -/
def layoutFor (s : Settings) (fixedWidths : Option FixedWidths) (name : String) : TextLayout :=
  let transposed := 0 < s.transposedLines
  { delimiters := ⟨s.separator, s.quoteChar⟩
    fixedWidths
    commentChar := s.commentChar
    headerLine := if transposed then none else s.headerLineFor name
    suppressHeaders := s.suppressHeaders
    trimHeaders := s.trimHeaders
    skipLeadingLines := s.skipLeadingLines
    skipLeadingDataLines := s.skipLeadingDataLines
    ignoreUnparseableLines := s.ignoreUnparseableLines && !transposed
    defectiveHeaders := s.defectiveHeaders }

/-- What is dropped from the later files of a set. -/
def fileSetLayout (s : Settings) (cipher : Option Cipher) : FileSetLayout where
  commentChar := s.commentChar
  suppressHeaders := s.suppressHeaders
  skipLeadingLines := s.skipLeadingLines
  linesToSkip := s.skipLeadingDataLines + s.transposedLines
  cipher := cipher

def tablePath (s : Settings) (name : String) : String :=
  if name.toList.head? = some '/' || s.path.isEmpty then name
  else if s.path.toList.getLast? = some '/' then s.path ++ name
  else s.path ++ "/" ++ name

/-- The directory of a set of files and the start of their names; none if the table has no place. -/
def fileSetPlace (s : Settings) (name : String) : Option (String × String) :=
  let names := FileTree.components (s.tablePath name)
  names.getLast?.map fun base =>
    ("/".intercalate names.dropLast, if base = ".." then "" else base)

def place? (s : Settings) (name : String) : Option TablePlace :=
  if s.indexedFiles then (s.fileSetPlace name).map fun (directory, _) => .directory directory
  else some (.file (s.tablePath name ++ s.extension))

def fileSetPattern (s : Settings) (base : String) : String :=
  NamePattern.escaped base ++ s.fileTailPattern.getD "" ++ NamePattern.escaped s.extension

end Settings

namespace Connection

/-- Checks the settings: the ranges of fixed fields, the declared types, and the cipher. -/
def openWith (catalog : CipherCatalog) (s : Settings) : Except QueryError Connection := do
  let fixedWidths ← s.fixedWidths.mapM FixedWidths.parse
  let _ ← s.columnTypes.mapM DataType.parseList
  let _ ← s.tables.mapM fun (_, table) => table.columnTypes.mapM DataType.parseList
  let cipher ← s.cipher.mapM fun c => catalog.resolve c.name c.parameters
  return { settings := s, cipher, fixedWidths }

def ofSettings (s : Settings) : Except QueryError Connection :=
  openWith .standard s

def openFileSet (c : Connection) (tree : FileTree) (name : String) :
    Except QueryError FileSetLines :=
  match c.settings.fileSetPlace name with
  | none => .error (.tableNotFound name)
  | some (directory, base) =>
    let layout := c.settings.fileSetLayout c.cipher
    match FileSetLines.ofTree layout (c.settings.fileSetPattern base) tree directory with
    | .error (.io _) => .error (.tableNotFound name)
    | .error e => .error e
    | .ok lines => if lines.fileCount = 0 then .error (.tableNotFound name) else .ok lines

def openBytes (c : Connection) (tree : FileTree) (name : String) :
    Except QueryError (List UInt8) :=
  match c.reader with
  | some reader => reader name
  | none =>
    match tree.file? (c.settings.tablePath name ++ c.settings.extension) with
    | some bytes => .ok bytes
    | none => .error (.tableNotFound name)

def openText (c : Connection) (tree : FileTree) (name : String) : Except QueryError FileTable := do
  let layout := c.settings.layoutFor c.fixedWidths name
  if c.settings.indexedFiles && c.reader.isNone then
    let lines ← c.openFileSet tree name
    let text ← TextTable.ofLines layout lines
    return .inr (.ofTable text c.settings.fileTailParts c.settings.fileTailPrepend)
  else
    let bytes ← c.openBytes tree name
    let plain ← Cipher.decryptFile c.cipher bytes
    return .inl (← TextTable.ofLines layout (ByteLines.ofBytes plain))

def meltedHeader (c : Connection) (name : String) : Except QueryError (Option (List String)) :=
  (c.settings.headerLineFor name).mapM fun line =>
    (⟨c.settings.separator, c.settings.quoteChar⟩ : Delimiters).tokenize line c.settings.trimHeaders

def openTable (c : Connection) (tree : FileTree) (name : String) : Except QueryError Table := do
  let text ← c.openText tree name
  if c.settings.transposedLines = 0 then return .inr (.inl text)
  else
    let header ← c.meltedHeader name
    return .inr (.inr (← MeltedTable.ofTable text c.settings.transposedLines
      c.settings.transposedFieldsToSkip header))

def declaredTypes (c : Connection) (name : String) : Except QueryError (List DataType) :=
  match c.settings.columnTypesFor name with
  | some types => DataType.parseList types
  | none => .ok []

/-- Runs a query. A statement without a table runs over a single empty record. -/
def run (c : Connection) (tree : FileTree) (sql : String) (scrollable : Bool) :
    Except QueryError (Cursor Table) := do
  let statement ← Statement.parse sql
  let (source, declared) ← match statement.from? with
    | some table => do
      let declared ← c.declaredTypes table.name
      let source ← c.openTable tree table.name
      pure (source, declared)
    | none => pure (.inl .singleEmptyRow, [])
  match statement.run source { declared, formats := c.settings.formats, scrollable } with
  | .ok cursor => return cursor
  | .error failed => .error failed.error

/-- Runs a query; its result is streamed if that is possible. -/
def query (c : Connection) (tree : FileTree) (sql : String) : Except QueryError (Cursor Table) :=
  c.run tree sql c.settings.scrollable

/-- Runs a query with a cursor that can be moved backwards. -/
def scrollableQuery (c : Connection) (tree : FileTree) (sql : String) :
    Except QueryError (Cursor Table) :=
  c.run tree sql true

end Connection

end PlainTables
