import PlainTables.Proofs.Numeral
import PlainTables.Proofs.Text.Ends
import PlainTables.Proofs.Text.Reader
import PlainTables.Statement.Lexis
import PlainTables.Statement.Notation

/-!
# Tokens of statements

A statement can be written as tokens with one space between them. Names stand in double quotes and
texts in single ones, and the parenthesis that opens an aggregate belongs to its name.
-/

namespace PlainTables

open Text (doubled)

abbrev Keyword := { word : String // word ∈ Lexis.keywords }

inductive Token where
  | keyword (word : Keyword)
  | comparison (operator : Comparison)
  | comma
  | plus
  | star
  | opening
  | closing
  | name (s : String)
  | text (s : String)
  | integer (i : Int64)
  | count (n : UInt64)
  | call (function : Aggregate)

namespace Token

def between (q : Char) (text : String) : List Char :=
  q :: (doubled q text.toList ++ [q])

def spelling : Token → List Char
  | keyword word => word.val.toList
  | comparison operator => operator.symbol.toList
  | comma => [',']
  | plus => ['+']
  | star => ['*']
  | opening => ['(']
  | closing => [')']
  | name s => between '"' s
  | text s => between '\'' s
  | integer i => Numeral.intText i.toInt
  | count n => Nat.toDigits 10 n.toNat
  | call function => function.name.toList ++ ['(']

def join (tokens : List Token) : List Char :=
  [' '].intercalate (tokens.map spelling)

/-- What stands behind a token: nothing, or a space and more tokens. -/
def tail : List Token → List Char
  | [] => []
  | token :: tokens => ' ' :: join (token :: tokens)

theorem join_nil : join [] = [] := rfl

theorem join_cons (token : Token) (tokens : List Token) :
    join (token :: tokens) = token.spelling ++ tail tokens := by
  cases tokens with
  | nil => simp [join, tail]
  | cons other tokens => simp [join, tail, List.intercalate_cons_cons]

theorem spelling_cons (token : Token) :
    ∃ c letters, token.spelling = c :: letters ∧ Reader.isSpace c = false := by
  have digits (n : Nat) : ∃ c letters, Nat.toDigits 10 n = c :: letters ∧
      Reader.isSpace c = false := by
    obtain ⟨c, letters, spelling, digit⟩ := Numeral.toDigits_eq_cons n
    refine ⟨c, letters, spelling, ?_⟩
    simp only [Reader.isSpace, Bool.or_eq_false_iff, decide_eq_false_iff_not]
    have other (d : Char) (low : d.toNat < 48 ∨ 57 < d.toNat) : c ≠ d :=
      Numeral.ne_of_isDigit digit low
    exact ⟨⟨⟨other _ (by decide), other _ (by decide)⟩, other _ (by decide)⟩, other _ (by decide)⟩
  cases token with
  | keyword word =>
    have first : ∀ word ∈ Lexis.keywords, word.toList ≠ [] ∧
        word.toList.head?.all (fun c => !Reader.isSpace c) = true := by decide
    obtain ⟨nonempty, notSpace⟩ := first word.val word.property
    obtain ⟨c, letters, spelling⟩ := List.exists_cons_of_ne_nil nonempty
    rw [spelling] at notSpace
    exact ⟨c, letters, spelling, by simpa using notSpace⟩
  | comparison operator => cases operator <;> exact ⟨_, _, rfl, rfl⟩
  | comma => exact ⟨_, _, rfl, rfl⟩
  | plus => exact ⟨_, _, rfl, rfl⟩
  | star => exact ⟨_, _, rfl, rfl⟩
  | opening => exact ⟨_, _, rfl, rfl⟩
  | closing => exact ⟨_, _, rfl, rfl⟩
  | name s => exact ⟨_, _, rfl, rfl⟩
  | text s => exact ⟨_, _, rfl, rfl⟩
  | integer i =>
    rw [spelling, Numeral.intText_eq]
    split
    · exact ⟨_, _, rfl, rfl⟩
    · exact digits _
  | count n => exact digits _
  | call function => cases function <;> exact ⟨_, _, rfl, rfl⟩

theorem dropWhile_join (tokens : List Token) :
    (join tokens).dropWhile Reader.isSpace = join tokens := by
  cases tokens with
  | nil => rfl
  | cons token tokens =>
    obtain ⟨c, letters, spelling, notSpace⟩ := token.spelling_cons
    rw [join_cons, spelling, List.cons_append, List.dropWhile_cons, notSpace]
    rfl

theorem dropWhile_tail (tokens : List Token) :
    (tail tokens).dropWhile Reader.isSpace = join tokens := by
  cases tokens with
  | nil => rfl
  | cons token tokens => exact dropWhile_join (token :: tokens)

/-- Every token stops before characters of a kind that spaces are not of. -/
theorem stops_tail {kind : Char → Bool} (space : kind ' ' = false) (tokens : List Token) :
    Reader.Stops kind (tail tokens) := by
  cases tokens with
  | nil => intro c none; cases none
  | cons token tokens =>
    intro c first
    obtain rfl : ' ' = c := Option.some.inj first
    exact space

theorem length_le_length_join (tokens : List Token) : tokens.length ≤ (join tokens).length := by
  induction tokens with
  | nil => exact Nat.le_refl 0
  | cons token tokens ih =>
    obtain ⟨c, letters, spelling, -⟩ := token.spelling_cons
    have others : tokens.length ≤ (tail tokens).length := by
      cases tokens with
      | nil => exact Nat.le_refl 0
      | cons other tokens => exact Nat.le_succ_of_le ih
    rw [join_cons, spelling, List.length_append, List.length_cons, List.length_cons]
    omega

def symbol? : Char → Option Token
  | ',' => some comma
  | '+' => some plus
  | '*' => some star
  | '(' => some opening
  | ')' => some closing
  | _ => none

theorem symbol?_of_isDigit {c : Char} (digit : c.isDigit = true) : symbol? c = none := by
  unfold symbol?
  split
  · exact absurd digit (by decide)
  · exact absurd digit (by decide)
  · exact absurd digit (by decide)
  · exact absurd digit (by decide)
  · exact absurd digit (by decide)
  · rfl

theorem eq_of_symbol? {c : Char} {symbol token : Token} (isSymbol : symbol? c = some symbol)
    (first : token.spelling.head? = some c) : token = symbol := by
  have digits {n : Nat} (first : (Nat.toDigits 10 n).head? = some c) : False := by
    obtain ⟨d, ds, spelling, digit⟩ := Numeral.toDigits_eq_cons n
    rw [spelling] at first
    obtain rfl : d = c := Option.some.inj first
    rw [symbol?_of_isDigit digit] at isSymbol
    cases isSymbol
  have other {d : Char} (noSymbol : symbol? d = none) (first : some d = some c) : False := by
    obtain rfl : d = c := Option.some.inj first
    rw [noSymbol] at isSymbol
    cases isSymbol
  have same {d : Char} (first : some d = some c) : symbol? d = some symbol := by
    obtain rfl : d = c := Option.some.inj first
    exact isSymbol
  cases token with
  | keyword word =>
    have letters : ∀ w ∈ Lexis.keywords,
        w.toList.head?.all (fun d => (symbol? d).isNone) = true := by decide
    have noSymbol := letters word.val word.property
    have head : word.val.toList.head? = some c := first
    rw [head, Option.all_some, isSymbol] at noSymbol
    cases noSymbol
  | comparison operator => cases operator <;> exact (other rfl first).elim
  | comma => exact Option.some.inj (same first)
  | plus => exact Option.some.inj (same first)
  | star => exact Option.some.inj (same first)
  | opening => exact Option.some.inj (same first)
  | closing => exact Option.some.inj (same first)
  | name s => exact (other rfl first).elim
  | text s => exact (other rfl first).elim
  | integer i =>
    rw [spelling, Numeral.intText_eq] at first
    split at first
    · exact (other rfl first).elim
    · exact (digits first).elim
  | count n => exact (digits first).elim
  | call function => cases function <;> exact (other rfl first).elim

end Token

end PlainTables
