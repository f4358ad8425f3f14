/-!
# Column types

The types that a column of a table can be declared or found to have.
-/

namespace PlainTables

inductive DataType where
  | string
  | integer
  | double
  | date
  | time
  | timestamp
deriving DecidableEq

namespace DataType

def name : DataType → String
  | string => "String"
  | integer => "Integer"
  | double => "Double"
  | date => "Date"
  | time => "Time"
  | timestamp => "Timestamp"

/-- The types tried on a text of unknown type. The first that fits is taken. -/
def inferenceOrder : List DataType :=
  [integer, double, date, time, timestamp]

def ofKeyword? : String → Option DataType
  | "STRING" | "VARCHAR" | "TEXT" | "CHAR" => some string
  | "INTEGER" | "INT" | "LONG" | "SHORT" | "BYTE" | "BIGINT" => some integer
  | "DOUBLE" | "FLOAT" | "REAL" => some double
  | "DATE" => some date
  | "TIME" => some time
  | "TIMESTAMP" | "DATETIME" => some timestamp
  | _ => none

end DataType

end PlainTables
