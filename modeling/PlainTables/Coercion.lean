import PlainTables.Calendar.Pattern
import PlainTables.Text.Casing
import PlainTables.Text.Parts
import PlainTables.Value

/-!
# From text to values

The fields of a file are texts. Their types are declared or found by trying the types in order; a
declared type is binding, a type that was found is not. Types are declared as one text, a list of their
names between commas in any case, of which empty ones are passed over.
-/

namespace PlainTables

namespace DataType

def ofName (name : String) : Except QueryError DataType :=
  let keyword := Text.uppercase (Text.trimmed name)
  match ofKeyword? keyword with
  | some type => .ok type
  | none => .error (.invalidConfiguration (.columnType keyword))

def parseList (list : String) : Except QueryError (List DataType) :=
  (Text.listItems list).mapM ofName

end DataType

/-- The patterns in which dates and times are written. -/
structure Formats where
  dateFormat : String := "%Y-%m-%d"
  timeFormat : String := "%H:%M:%S"
  timestampFormat : String := "%Y-%m-%d %H:%M:%S"
deriving DecidableEq

namespace Formats

def read? (c : Formats) (raw : String) : DataType → Option Value
  | .string => some (.text raw)
  | .integer => (Numeral.readInt64? raw.toList).map .integer
  | .double => (Double.read? raw.toList).map .double
  | .date => (Date.read? c.dateFormat raw).map .date
  | .time => (TimeOfDay.read? c.timeFormat raw).map .time
  | .timestamp => (Timestamp.read? c.timestampFormat raw).map .timestamp

def infer (c : Formats) (raw : String) : DataType :=
  let trimmed := Text.trimmed raw
  (DataType.inferenceOrder.find? fun type => (c.read? trimmed type).isSome).getD .string

/-- The value of a text in a declared type. A blank text is `null` unless texts are wanted. -/
def coerce (c : Formats) (raw : String) (type : DataType) : Except QueryError Value :=
  match type with
  | .string => .ok (.text raw)
  | type =>
    let trimmed := Text.trimmed raw
    if trimmed.isEmpty then .ok .null
    else
      match c.read? trimmed type with
      | some v => .ok v
      | none => .error (.type (.notConvertible raw type))

/-- The value of a text in a type that was found; a text that does not fit stays a text. -/
def coerceInferred (c : Formats) (raw : String) (type : DataType) : Value :=
  match c.coerce raw type with
  | .ok v => v
  | .error _ => .text raw

end Formats

end PlainTables
