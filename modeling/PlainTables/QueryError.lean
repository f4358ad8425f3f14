import PlainTables.DataType

/-!
# Errors

Everything that can go wrong between a statement and its rows. An error names its cause; the wording
is in the message functions alone.
-/

namespace PlainTables

inductive StatementFault where
  | endOfInput
  | unexpected (word : String)
  | unsupportedOperator (operator : Char)
  | missingAlias
deriving DecidableEq

inductive UnsupportedFeature where
  | aggregateOutsideGroup (aggregate : String)
  | misplacedWildcard
  | ungroupedColumn (name : String)
  | forwardOnly
deriving DecidableEq

inductive QuoteFault where
  | unexpected (found : Char)
  | expecting (wanted : Char)
deriving DecidableEq

/-- A value that does not have the type it is needed in. -/
inductive TypeFault where
  | notConvertible (raw : String) (type : DataType)
  | sumOverflow (left right : Int)
  | notAddable (left right : DataType)
  | aggregateOverflow (aggregate : String)
  | notNumeric (aggregate value : String)
  | notReadableAsInteger (value column : String)
  | notReadableAsNumber (value column : String)
  | patternTooLarge (limit : Nat)
deriving DecidableEq

inductive CipherFault where
  | emptySeed
  | parameterCount (count : Nat)
  /-- The reason of a kind of cipher that is not of this library. -/
  | other (reason : String)
deriving DecidableEq

inductive ConfigurationFault where
  | columnType (name : String)
  | fixedWidthRange (range : String)
  | fileNamePattern
  | transposedHeader (keys given : Nat)
  | cipher (fault : CipherFault)
  | settings
deriving DecidableEq

inductive IoFault where
  | streamClosed
  | cursorClosed
  | noSuchFile
  | notADirectory
  | isADirectory
deriving DecidableEq

/-- The errors of the library. -/
inductive QueryError where
  | statement (position : Nat) (fault : StatementFault)
  | unsupportedFeature (feature : UnsupportedFeature)
  | malformedQuote (line position : Nat) (fault : QuoteFault)
  | unterminatedQuote (line : String)
  | duplicateColumn (name : String)
  | truncatedBlock (expected found : Nat)
  | unknownCipher (name : String) (fault : Option CipherFault)
  | type (fault : TypeFault)
  | unknownColumn (name : String)
  | tableNotFound (name : String)
  | invalidConfiguration (fault : ConfigurationFault)
  | noCurrentRow
  | io (fault : IoFault)
deriving DecidableEq

def StatementFault.message : StatementFault → String
  | endOfInput => "unexpected end of input"
  | unexpected word => "unexpected '" ++ word ++ "'"
  | unsupportedOperator c =>
    "unsupported operator '" ++ String.singleton c ++ "', only '+' is allowed"
  | missingAlias => "computed column requires an alias"

def UnsupportedFeature.message : UnsupportedFeature → String
  | aggregateOutsideGroup aggregate => "aggregate " ++ aggregate ++ " outside of a grouped query"
  | misplacedWildcard => "'*' is only allowed as the whole select list"
  | ungroupedColumn name =>
    "column '" ++ name ++ "' must appear in GROUP BY when aggregates are selected"
  | forwardOnly => "cursor is forward-only"

def QuoteFault.message : QuoteFault → String
  | unexpected c => "unexpected '" ++ String.singleton c ++ "'"
  | expecting c => "expecting '" ++ String.singleton c ++ "'"

def TypeFault.message : TypeFault → String
  | notConvertible raw type => "cannot convert '" ++ raw ++ "' to " ++ type.name
  | sumOverflow l r => "integer overflow in " ++ toString l ++ " + " ++ toString r
  | notAddable l r => "cannot add " ++ l.name ++ " and " ++ r.name
  | aggregateOverflow aggregate => "integer overflow in " ++ aggregate
  | notNumeric aggregate value => aggregate ++ " over non-numeric value '" ++ value ++ "'"
  | notReadableAsInteger value column =>
    "cannot read '" ++ value ++ "' in column " ++ column ++ " as an integer"
  | notReadableAsNumber value column =>
    "cannot read '" ++ value ++ "' in column " ++ column ++ " as a number"
  | patternTooLarge limit =>
    "invalid LIKE pattern: Compiled regex exceeds size limit of " ++ toString limit ++ " bytes."

def CipherFault.message : CipherFault → String
  | emptySeed => "XOR cipher seed must not be empty"
  | parameterCount count => "XOR cipher takes one seed parameter, got " ++ toString count
  | other reason => reason

def ConfigurationFault.message : ConfigurationFault → String
  | columnType name => "unknown column type '" ++ name ++ "'"
  | fixedWidthRange range => "invalid fixed width range '" ++ range ++ "'"
  | fileNamePattern => "invalid file name pattern"
  | transposedHeader keys given =>
    "transposed header needs " ++ toString keys ++ " key columns and a value column, got " ++
      toString given
  | cipher fault => fault.message
  | settings => "unreadable settings"

def IoFault.message : IoFault → String
  | streamClosed => "stream closed"
  | cursorClosed => "cursor is closed"
  | noSuchFile => "No such file or directory (os error 2)"
  | notADirectory => "Not a directory (os error 20)"
  | isADirectory => "Is a directory (os error 21)"

namespace QueryError

/-- The cipher that was asked for, with the reason if it exists but rejects its parameters. -/
def cipherText (name : String) : Option CipherFault → String
  | none => name
  | some fault => name ++ " (Invalid configuration: " ++ fault.message ++ ")"

def message : QueryError → String
  | statement position fault =>
    "Syntax error at position " ++ toString position ++ ": " ++ fault.message
  | unsupportedFeature feature => "Unsupported feature: " ++ feature.message
  | malformedQuote line position fault =>
    "Malformed quote at line " ++ toString line ++ ", position " ++ toString position ++ ": " ++
      fault.message
  | unterminatedQuote line => "EOF reached inside quoted mode. Line: " ++ line
  | duplicateColumn name => "Table contains duplicated column name '" ++ name ++ "'"
  | truncatedBlock expected found =>
    "Truncated transposed block: expected " ++ toString expected ++ " key lines, found " ++
      toString found
  | unknownCipher name fault => "Could not find codec class " ++ cipherText name fault
  | type fault => "Type error: " ++ fault.message
  | unknownColumn name => "Column '" ++ name ++ "' not found"
  | tableNotFound name => "Table '" ++ name ++ "' not found"
  | invalidConfiguration fault => "Invalid configuration: " ++ fault.message
  | noCurrentRow => "No current row"
  | io fault => "IO error: " ++ fault.message

/-- The error comes from splitting a line into fields. -/
def isQuoteError : QueryError → Bool
  | malformedQuote .. | unterminatedQuote _ => true
  | _ => false

end QueryError

end PlainTables
