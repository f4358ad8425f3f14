import PlainTables.Statement
import PlainTables.Text.Casing

/-!
# Qualified column names

A qualifier that names the table of the statement or its alias is dropped. Any other qualifier
becomes the first part of a dotted column name. A statement without a table has its select list
resolved and nothing else.
-/

namespace PlainTables

def NamedTable.answersTo (table : NamedTable) (qualifier : String) : Bool :=
  Text.sameName table.name qualifier || table.alias?.any fun name => Text.sameName name qualifier

def Expression.resolve (table : Option NamedTable) : Expression → Expression
  | column (some q) name =>
    if table.any (·.answersTo q) then column none name else column none (q ++ "." ++ name)
  | add l r => add (l.resolve table) (r.resolve table)
  | aggregate f argument => aggregate f (argument.resolve table)
  | e => e

def Condition.resolve (table : Option NamedTable) : Condition → Condition
  | compare op l r => compare op (l.resolve table) (r.resolve table)
  | between e low high => between (e.resolve table) (low.resolve table) (high.resolve table)
  | like e pattern => like (e.resolve table) pattern
  | isNull e => isNull (e.resolve table)
  | not c => not (c.resolve table)
  | and l r => and (l.resolve table) (r.resolve table)
  | or l r => or (l.resolve table) (r.resolve table)

def Statement.resolve (s : Statement) : Statement :=
  let columns := s.columns.map fun c => { c with expression := c.expression.resolve s.from? }
  match s.from? with
  | none => { s with columns }
  | table =>
    { s with
      columns
      filter := s.filter.map (·.resolve table)
      groupBy := s.groupBy.map (·.resolve table)
      having := s.having.map (·.resolve table)
      orderBy := s.orderBy.map fun o => { o with expression := o.expression.resolve table } }

end PlainTables
