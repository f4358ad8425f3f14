import PlainTables.Statement
import PlainTables.Text.Casing

/-!
# Prefix text of expressions

Expressions and conditions written with the operator first, which needs no parentheses. The text of
an expression without alias is the name of its output column.
-/

namespace PlainTables

def Aggregate.name : Aggregate → String
  | count => "COUNT"
  | sum => "SUM"
  | avg => "AVG"
  | min => "MIN"
  | max => "MAX"

def Comparison.symbol : Comparison → String
  | eq => "="
  | ne => "<>"
  | lt => "<"
  | gt => ">"
  | le => "<="
  | ge => ">="

/-- Column names stand in brackets and in upper case, texts between quotes. -/
def Expression.text : Expression → String
  | wildcard => "*"
  | column (some q) name => "[" ++ Text.uppercase q ++ "." ++ Text.uppercase name ++ "]"
  | column none name => "[" ++ Text.uppercase name ++ "]"
  | literal (.text s) => "'" ++ s ++ "'"
  | literal v => v.display
  | add l r => "+ " ++ l.text ++ " " ++ r.text
  | countRows => "COUNT(*)"
  | aggregate f argument => f.name ++ "(" ++ argument.text ++ ")"

def Condition.text : Condition → String
  | compare op l r => op.symbol ++ " " ++ l.text ++ " " ++ r.text
  | between e low high => "B " ++ e.text ++ " " ++ low.text ++ " " ++ high.text
  | like e pattern => "L " ++ e.text ++ " '" ++ pattern ++ "'"
  | isNull e => "N " ++ e.text
  | not c => "NOT " ++ c.text
  | and l r => "AND " ++ l.text ++ " " ++ r.text
  | or l r => "OR " ++ l.text ++ " " ++ r.text

/-- The name of an output column: its alias, a column's own name, or the text of the expression. -/
def OutputColumn.name (c : OutputColumn) : String :=
  match c.alias?, c.expression with
  | some name, _ => name
  | none, .column _ name => name
  | none, .literal v => v.display
  | none, e => e.text

end PlainTables
