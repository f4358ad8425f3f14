import PlainTables.Proofs.Statement.Token

/-!
# Writing statements

The text of a statement with all names in quotes, as few parentheses as the operators need, and the
clauses in their order. What cannot be written is left to `Printable`.
-/

namespace PlainTables

/-- What a text is free to leave out: the word before a new name, and the order that is the default. -/
structure Style where
  nameWord : Bool := true
  orderWord : Bool := false

namespace Token

abbrev word (w : String)
    (known : Lexis.keywords.contains w = true := by exact Eq.refl true) : Token :=
  .keyword ⟨w, List.contains_iff_mem.mp known⟩

def enclose (wanted : Bool) (tokens : List Token) : List Token :=
  if wanted then .opening :: (tokens ++ [.closing]) else tokens

def commas (items : List (List Token)) : List Token :=
  [.comma].intercalate items

end Token

open Token (word enclose commas)

def Value.token : Value → Token
  | .null => word "NULL"
  | .integer i => .integer i
  | v => .text v.display

namespace Expression

def isSum : Expression → Bool
  | add .. => true
  | _ => false

/-- Sums are added from the left, so only a sum on the right needs parentheses. -/
def tokens : Expression → List Token
  | wildcard => [.star]
  | column _ name => [.name name]
  | literal v => [v.token]
  | add l r => l.tokens ++ .plus :: enclose r.isSum r.tokens
  | countRows => [.call .count, .star, .closing]
  | aggregate f argument => .call f :: (argument.tokens ++ [.closing])

end Expression

namespace Condition

def isOr : Condition → Bool
  | or .. => true
  | _ => false

def isConnective : Condition → Bool
  | and .. | or .. => true
  | _ => false

/-- NOT binds stronger than AND, AND stronger than OR, and both go on to the right. -/
def tokens : Condition → List Token
  | compare op l r => l.tokens ++ .comparison op :: r.tokens
  | between e low high =>
    e.tokens ++ word "BETWEEN" :: (low.tokens ++ word "AND" :: high.tokens)
  | like e pattern => e.tokens ++ [word "LIKE", .text pattern]
  | isNull e => e.tokens ++ [word "IS", word "NULL"]
  | not c => word "NOT" :: enclose c.isConnective c.tokens
  | and l r => enclose l.isConnective l.tokens ++ word "AND" :: enclose r.isOr r.tokens
  | or l r => enclose l.isOr l.tokens ++ word "OR" :: r.tokens

end Condition

def Style.newName (style : Style) : Option String → List Token
  | none => []
  | some name => if style.nameWord then [word "AS", .name name] else [.name name]

def Style.order (style : Style) : SortOrder → List Token
  | .ascending => if style.orderWord then [word "ASC"] else []
  | .descending => [word "DESC"]

def OutputColumn.tokens (style : Style) (c : OutputColumn) : List Token :=
  c.expression.tokens ++ style.newName c.alias?

def OrderItem.tokens (style : Style) (o : OrderItem) : List Token :=
  o.expression.tokens ++ style.order o.order

namespace Statement

def optionalTokens {α : Type} (tokens : α → List Token) : Option α → List Token
  | none => []
  | some a => tokens a

def listTokens {α : Type} (words : List Token) (tokens : α → List Token) : List α → List Token
  | [] => []
  | items => words ++ commas (items.map tokens)

def tokens (style : Style) (s : Statement) : List Token :=
  word "SELECT" :: ((if s.distinct then [word "DISTINCT"] else []) ++
    (commas (s.columns.map (·.tokens style)) ++
    (optionalTokens (fun t => word "FROM" :: .name t.name :: style.newName t.alias?) s.from? ++
    (optionalTokens (fun c => word "WHERE" :: c.tokens) s.filter ++
    (listTokens [word "GROUP", word "BY"] Expression.tokens s.groupBy ++
    (optionalTokens (fun c => word "HAVING" :: c.tokens) s.having ++
    (listTokens [word "ORDER", word "BY"] (·.tokens style) s.orderBy ++
    (optionalTokens (fun n => [word "LIMIT", .count n]) s.limit ++
    optionalTokens (fun n => [word "OFFSET", .count n]) s.offset))))))))

def print (style : Style) (s : Statement) : String :=
  String.ofList (Token.join (s.tokens style))

end Statement

/-- A literal of a statement is a text, an integer or NULL. -/
inductive Value.Printable : Value → Prop
  | null : Printable .null
  | integer (i : Int64) : Printable (.integer i)
  | text (s : String) : Printable (.text s)

/-- A column or literal, as an aggregate takes it. -/
inductive Expression.Simple : Expression → Prop
  | column (name : String) : Simple (.column none name)
  | literal {v : Value} : v.Printable → Simple (.literal v)

/-- An operand without qualifiers, in which the wildcard only stands for the rows to count. -/
inductive Expression.Printable : Expression → Prop
  | simple {e : Expression} : e.Simple → Printable e
  | add {l r : Expression} : Printable l → Printable r → Printable (.add l r)
  | countRows : Printable .countRows
  | count (name : String) : Printable (.aggregate .count (.column none name))
  | aggregate {f : Aggregate} {e : Expression} : f ≠ .count → e.Simple → Printable (.aggregate f e)

inductive Condition.Printable : Condition → Prop
  | compare {op : Comparison} {l r : Expression} : l.Printable → r.Printable →
      Printable (.compare op l r)
  | between {e low high : Expression} : e.Printable → low.Printable → high.Printable →
      Printable (.between e low high)
  | like {e : Expression} (pattern : String) : e.Printable → Printable (.like e pattern)
  | isNull {e : Expression} : e.Printable → Printable (.isNull e)
  | not {c : Condition} : Printable c → Printable (.not c)
  | and {l r : Condition} : Printable l → Printable r → Printable (.and l r)
  | or {l r : Condition} : Printable l → Printable r → Printable (.or l r)

/-- Every sum of the select list has a name, and the wildcard is the whole list. -/
structure Statement.Printable (s : Statement) : Prop where
  columns : s.columns = [⟨.wildcard, none⟩] ∨ s.columns ≠ [] ∧ ∀ c ∈ s.columns,
    c.expression.Printable ∧ (c.expression.isSum = true → c.alias? ≠ none)
  filter : ∀ c ∈ s.filter, c.Printable
  groupBy : ∀ e ∈ s.groupBy, e.Printable
  having : ∀ c ∈ s.having, c.Printable
  orderBy : ∀ o ∈ s.orderBy, o.expression.Printable

end PlainTables
