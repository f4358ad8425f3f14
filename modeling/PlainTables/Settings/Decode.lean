import PlainTables.Double.Decimal
import PlainTables.Settings
import PlainTables.Settings.Tree
import PlainTables.Value

/-!
# The meaning of written settings

A written setting is taken in the sense in which it is needed: numbers and truth values may be written
as texts, and the other way round. Names that mean nothing do not count, and what is not written has
its default.
-/

namespace PlainTables.Setting

def toText? : Setting → Option String
  | text s => some s
  | integer i => some (toString i.toInt)
  | double d => some (String.ofList d.plainText)
  | boolean b => some (if b then "true" else "false")
  | _ => none

/-- The words for the truth values, digits apart. -/
def wordTruth? (s : String) : Option Bool :=
  let s := Text.lowercase s
  if s = "true" ∨ s = "on" ∨ s = "yes" then some true
  else if s = "false" ∨ s = "off" ∨ s = "no" then some false
  else none

/-- Any number but zero is true. -/
def toBool? : Setting → Option Bool
  | boolean b => some b
  | integer i => some (i ≠ 0)
  | double d => some (d.compare? .zero ≠ some .eq)
  | text s => if s = "1" then some true else if s = "0" then some false else wordTruth? s
  | _ => none

def toCount? : Setting → Option Nat
  | boolean b => some b.toNat
  | integer i => if i < 0 then none else some i.toInt.toNat
  | double d => some d.roundToCount.toNat
  | text s =>
    match wordTruth? s with
    | some b => some b.toNat
    | none => (Numeral.readUInt64? s.toList).map UInt64.toNat
  | _ => none

def toChar? : Setting → Option Char
  | text s =>
    match s.toList with
    | [c] => some c
    | _ => none
  | _ => none

def toTexts? : Setting → Option (List String)
  | list xs => xs.mapM toText?
  | _ => none

variable {α : Type}

def toOption? (read : Setting → Option α) : Setting → Option (Option α)
  | absent => some none
  | s => (read s).map some

/-- A setting by its name, or its default if it is not written. -/
def readAt (s : Setting) (name : String) (fallback : α) (read : Setting → Option α) : Option α :=
  match s.get? name with
  | some v => read v
  | none => some fallback

/-- The settings of a small group, which may be written by their names or in their order. -/
def named? (names : List String) : Setting → Option Setting
  | table es => some (table es)
  | list xs => some (table (names.zip xs))
  | _ => none

def toCipher? (s : Setting) : Option CipherSettings := do
  let s ← s.named? ["name", "parameters"]
  let name ← (← s.get? "name").toText?
  let parameters ← s.readAt "parameters" [] toTexts?
  return { name, parameters }

def toTable? (s : Setting) : Option TableSettings := do
  let s ← s.named? ["header_line", "column_types"]
  let headerLine ← s.readAt "header_line" none (toOption? toText?)
  let columnTypes ← s.readAt "column_types" none (toOption? toText?)
  return { headerLine, columnTypes }

def toTables? : Setting → Option (List (String × TableSettings))
  | table es => es.mapM fun (name, s) => do return (name, ← s.toTable?)
  | _ => none

def toFormats? (s : Setting) : Option Formats := do
  let d : Formats := {}
  let dateFormat ← s.readAt "date_format" d.dateFormat toText?
  let timeFormat ← s.readAt "time_format" d.timeFormat toText?
  let timestampFormat ← s.readAt "timestamp_format" d.timestampFormat toText?
  return { dateFormat, timeFormat, timestampFormat }

def toSettings? (s : Setting) : Option Settings := do
  let d : Settings := {}
  return {
    path := ← s.readAt "path" d.path toText?
    extension := ← s.readAt "extension" d.extension toText?
    separator := ← s.readAt "separator" d.separator toChar?
    quoteChar := ← s.readAt "quote_char" d.quoteChar (toOption? toChar?)
    commentChar := ← s.readAt "comment_char" none (toOption? toChar?)
    headerLine := ← s.readAt "header_line" none (toOption? toText?)
    suppressHeaders := ← s.readAt "suppress_headers" false toBool?
    trimHeaders := ← s.readAt "trim_headers" d.trimHeaders toBool?
    skipLeadingLines := ← s.readAt "skip_leading_lines" 0 toCount?
    skipLeadingDataLines := ← s.readAt "skip_leading_data_lines" 0 toCount?
    ignoreUnparseableLines := ← s.readAt "ignore_unparseable_lines" false toBool?
    defectiveHeaders := ← s.readAt "defective_headers" false toBool?
    columnTypes := ← s.readAt "column_types" none (toOption? toText?)
    formats := ← s.toFormats?
    fixedWidths := ← s.readAt "fixed_widths" none (toOption? toText?)
    transposedLines := ← s.readAt "transposed_lines" 0 toCount?
    transposedFieldsToSkip := ← s.readAt "transposed_fields_to_skip" 0 toCount?
    indexedFiles := ← s.readAt "indexed_files" false toBool?
    fileTailPattern := ← s.readAt "file_tail_pattern" none (toOption? toText?)
    fileTailParts := ← s.readAt "file_tail_parts" [] toTexts?
    fileTailPrepend := ← s.readAt "file_tail_prepend" false toBool?
    cipher := ← s.readAt "cipher" none (toOption? toCipher?)
    scrollable := ← s.readAt "scrollable" false toBool?
    tables := ← s.readAt "tables" [] toTables? }

end PlainTables.Setting
