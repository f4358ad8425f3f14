import PlainTables.Coercion
import PlainTables.Text.Casing

/-!
# Settings

The settings of a connection say where its tables are and how they are laid out. They hold for all
tables; single tables can have a header and column types of their own.
-/

namespace PlainTables

structure CipherSettings where
  name : String
  parameters : List String := []
deriving DecidableEq

structure TableSettings where
  headerLine : Option String := none
  columnTypes : Option String := none
deriving DecidableEq

structure Settings where
  /-- The directory of the tables. -/
  path : String := "."
  /-- What is put after the name of a table to get the name of its file. -/
  extension : String := ".csv"
  separator : Char := ','
  quoteChar : Option Char := some '"'
  commentChar : Option Char := none
  headerLine : Option String := none
  suppressHeaders : Bool := false
  trimHeaders : Bool := true
  skipLeadingLines : Nat := 0
  skipLeadingDataLines : Nat := 0
  ignoreUnparseableLines : Bool := false
  defectiveHeaders : Bool := false
  /-- Type names between commas. -/
  columnTypes : Option String := none
  formats : Formats := {}
  /-- Ranges of characters between commas; the tables then have fields of fixed width. -/
  fixedWidths : Option String := none
  transposedLines : Nat := 0
  transposedFieldsToSkip : Nat := 0
  /-- A table is made up of all files that are named like it, with a tail. -/
  indexedFiles : Bool := false
  fileTailPattern : Option String := none
  fileTailParts : List String := []
  fileTailPrepend : Bool := false
  cipher : Option CipherSettings := none
  scrollable : Bool := false
  tables : List (String × TableSettings) := []
deriving DecidableEq

namespace Settings

/-- The settings of a table by its name, in any case of its letters. -/
def table? (s : Settings) (name : String) : Option TableSettings :=
  (s.tables.find? fun (own, _) => Text.sameName own name).map (·.2)

/-- The header line of a table, its own or that of all tables. -/
def headerLineFor (s : Settings) (name : String) : Option String :=
  ((s.table? name).bind TableSettings.headerLine).or s.headerLine

def columnTypesFor (s : Settings) (name : String) : Option String :=
  ((s.table? name).bind TableSettings.columnTypes).or s.columnTypes

end Settings

end PlainTables
