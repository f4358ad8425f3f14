import PlainTables.QueryError
import PlainTables.Text.Printable

/-!
# Errors in detail

The form in which the error that ends a run is shown: the kind of the error and what it is about, with
texts in quotes.
-/

namespace PlainTables

def QueryError.kind : QueryError → String
  | statement .. => "Syntax"
  | unsupportedFeature _ => "UnsupportedFeature"
  | malformedQuote .. => "MalformedQuote"
  | unterminatedQuote _ => "UnterminatedQuote"
  | duplicateColumn _ => "DuplicateColumn"
  | truncatedBlock .. => "TruncatedBlock"
  | unknownCipher .. => "UnknownCipher"
  | type _ => "Type"
  | unknownColumn _ => "UnknownColumn"
  | tableNotFound _ => "TableNotFound"
  | invalidConfiguration _ => "InvalidConfiguration"
  | noCurrentRow => "NoCurrentRow"
  | io _ => "Io"

namespace Detail

def wrapped (kind part : String) : String :=
  kind ++ "(" ++ part ++ ")"

def named (kind : String) (parts : List (String × String)) : String :=
  let texts := parts.map fun (name, part) => name ++ ": " ++ part
  kind ++ " \x7b " ++ ", ".intercalate texts ++ " \x7d"

def system (code : Nat) (kind message : String) : String :=
  named "Os" [("code", toString code), ("kind", kind), ("message", Text.quoted message)]

def custom (message : String) : String :=
  named "Custom" [("kind", "Other"), ("error", Text.quoted message)]

end Detail

open Detail

def IoFault.detail : IoFault → String
  | noSuchFile => system 2 "NotFound" "No such file or directory"
  | notADirectory => system 20 "NotADirectory" "Not a directory"
  | isADirectory => system 21 "IsADirectory" "Is a directory"
  | streamClosed => custom streamClosed.message
  | cursorClosed => custom cursorClosed.message

def QueryError.detail (e : QueryError) : String :=
  match e with
  | statement position fault =>
    named e.kind [("position", toString position), ("message", Text.quoted fault.message)]
  | malformedQuote line position fault =>
    named e.kind [("line", toString line), ("position", toString position),
      ("message", Text.quoted fault.message)]
  | truncatedBlock expected found =>
    named e.kind [("expected", toString expected), ("found", toString found)]
  | unsupportedFeature feature => wrapped e.kind (Text.quoted feature.message)
  | unterminatedQuote line => wrapped e.kind (Text.quoted line)
  | duplicateColumn name => wrapped e.kind (Text.quoted name)
  | unknownCipher name fault => wrapped e.kind (Text.quoted (cipherText name fault))
  | type fault => wrapped e.kind (Text.quoted fault.message)
  | unknownColumn name => wrapped e.kind (Text.quoted name)
  | tableNotFound name => wrapped e.kind (Text.quoted name)
  | invalidConfiguration fault => wrapped e.kind (Text.quoted fault.message)
  | noCurrentRow => e.kind
  | io fault => wrapped e.kind fault.detail

end PlainTables
