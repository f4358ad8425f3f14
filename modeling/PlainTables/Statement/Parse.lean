import PlainTables.Statement.Grammar
import PlainTables.Statement.Qualifier
import PlainTables.Text.Characters

/-!
# Reading a statement

The text of one statement is read as a whole. Blanks around it and semicolons at its end are passed
over; anything else that is left is an error at the byte where it starts.
-/

namespace PlainTables

def Text.byteSize : List Char → Nat
  | [] => 0
  | c :: s => c.utf8Size + byteSize s

def StatementFault.ofRest (rest : List Char) : StatementFault :=
  match Text.trimLeft rest with
  | [] => .endOfInput
  | c :: r =>
    if c = '-' || c = '*' || c = '/' || c = '%' then .unsupportedOperator c
    else .unexpected (String.ofList ((c :: r).takeWhile fun c => !Text.isBlank c))

namespace Statement

/-- The statement without the blanks around it and the semicolons at its end. -/
def body (sql : List Char) : List Char :=
  ((Text.trim sql).reverse.dropWhile (· = ';')).reverse

/-- The byte at which a rest of the body starts, after its blanks. -/
def positionOf (sql rest : List Char) : Nat :=
  let leading := Text.byteSize sql - Text.byteSize (Text.trimLeft sql)
  leading + Text.byteSize (body sql) - Text.byteSize (Text.trimLeft rest)

def parse (sql : String) : Except QueryError Statement :=
  let s := sql.toList
  match Grammar.statement (body s) with
  | .ok (statement, rest) =>
    if (Text.trimLeft rest).isEmpty then .ok statement.resolve
    else .error (.statement (positionOf s rest) (.ofRest rest))
  | .error (.fatal rest) => .error (.statement (positionOf s rest) .missingAlias)
  | .error (.miss rest) => .error (.statement (positionOf s rest) (.ofRest rest))

theorem parse_eq_ok_iff {sql : String} {s : Statement} :
    parse sql = .ok s ↔ ∃ written rest, Grammar.statement (body sql.toList) = .ok (written, rest) ∧
      Text.trimLeft rest = [] ∧ s = written.resolve := by
  unfold parse
  dsimp only
  generalize Grammar.statement (body sql.toList) = result
  cases result with
  | error stop => cases stop <;> simp
  | ok result =>
    obtain ⟨written, rest⟩ := result
    by_cases blank : Text.trimLeft rest = []
    · simp only [blank, List.isEmpty_nil, if_true]
      constructor
      · rintro ⟨⟩
        exact ⟨written, rest, rfl, blank, rfl⟩
      · rintro ⟨_, _, ⟨⟩, -, rfl⟩
        rfl
    · simp [blank]

end Statement

end PlainTables
