import PlainTables.Text.Parts

/-!
# Scripts

A script is a text of statements with semicolons between them. A semicolon inside single quotes
belongs to its statement.
-/

namespace PlainTables.Script

/-- The parts between semicolons; `inQuotes` says whether the first one starts inside quotes. -/
def parts (inQuotes : Bool) : List Char → List (List Char)
  | [] => [[]]
  | c :: s =>
    if c = ';' && !inQuotes then [] :: parts inQuotes s
    else
      match parts (if c = '\'' then !inQuotes else inQuotes) s with
      | part :: rest => (c :: part) :: rest
      | [] => [[c]]

/-- The statements of a script, without the blanks around them and without empty ones. -/
def statements (script : String) : List String :=
  (((parts false script.toList).map Text.trim).filter (!·.isEmpty)).map String.ofList

end PlainTables.Script
