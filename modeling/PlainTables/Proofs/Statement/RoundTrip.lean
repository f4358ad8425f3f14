import PlainTables.Proofs.Statement.Clause
import PlainTables.Proofs.Text.Ends
import PlainTables.Statement.Parse

/-!
# Reading written statements

A statement is written as text and read back unchanged, whatever its names, texts and nesting are.
-/

namespace PlainTables

open Reader Lexis
open Token (join tail word)

namespace Grammar

variable (style : Style)

theorem distinct_tokens (distinct : Bool) {rest : List Token}
    (other : rest.head? ≠ some (word "DISTINCT")) :
    ∃ found, optional (spaced (keyword "DISTINCT"))
        (join ((if distinct then [word "DISTINCT"] else []) ++ rest)) = .ok (found, join rest) ∧
      found.isSome = distinct := by
  cases distinct with
  | true => exact ⟨some (), optional_of_ok (keyword_join ⟨"DISTINCT", by decide⟩ rest), rfl⟩
  | false =>
    exact ⟨none, optional_of_misses (spaced_keyword_misses (w := ⟨"DISTINCT", by decide⟩) other), rfl⟩

theorem columns_head?_ne {s : Statement} (printable : s.Printable) (rest : List Token) :
    (Token.commas (s.columns.map (·.tokens style)) ++ rest).head? ≠ some (word "DISTINCT") := by
  rcases printable.columns with wildcard | ⟨nonempty, printable⟩
  · rw [wildcard]
    simp [Token.commas, OutputColumn.tokens, Expression.tokens]
  · obtain ⟨first, others, columns⟩ := List.exists_cons_of_ne_nil nonempty
    rw [columns] at printable ⊢
    obtain ⟨token, tokens, spelling, starts⟩ := (printable first List.mem_cons_self).1.starts
    rw [commas_cons, OutputColumn.tokens, spelling]
    cases starts <;> simp

theorem statement_tokens {s : Statement} (printable : s.Printable) :
    statement (join (s.tokens style)) = .ok (s, []) := by
  have last := (Follows.nil []).optional ⟨"OFFSET", by decide⟩
    (fun n => [word "OFFSET", .count n]) (fun _ => rfl) s.offset
  have offset := countClause_tokens ⟨"OFFSET", by decide⟩ s.offset (Follows.nil []) (by simp)
  rw [List.append_nil] at last offset
  have fromLimit := last.optional ⟨"LIMIT", by decide⟩
    (fun n => [word "LIMIT", .count n]) (fun _ => rfl) s.limit
  have fromOrder := fromLimit.list ⟨"ORDER", by decide⟩ [word "BY"] (·.tokens style) s.orderBy
  have fromHaving := fromOrder.optional ⟨"HAVING", by decide⟩
    (fun c => word "HAVING" :: Condition.tokens c) (fun _ => rfl) s.having
  have fromGroup := fromHaving.list ⟨"GROUP", by decide⟩ [word "BY"] Expression.tokens s.groupBy
  have fromWhere := fromGroup.optional ⟨"WHERE", by decide⟩
    (fun c => word "WHERE" :: Condition.tokens c) (fun _ => rfl) s.filter
  have fromFrom := fromWhere.optional ⟨"FROM", by decide⟩
    (fun t => word "FROM" :: .name t.name :: style.newName t.alias?) (fun _ => rfl) s.from?
  obtain ⟨found, distinct, same⟩ :=
    distinct_tokens s.distinct (columns_head?_ne style printable _)
  have columns := selectList_tokens style (fromFrom.endsName (by decide))
    (fromFrom.ne (by simp)) printable.columns
  have from? := fromClause_tokens style s.from? fromWhere (by decide) (by decide)
  have filter := conditionClause_tokens ⟨"WHERE", by decide⟩ printable.filter fromGroup (by decide)
    (by decide) (by decide)
  have groupBy := groupByClause_tokens printable.groupBy fromHaving (by decide)
  have having := conditionClause_tokens ⟨"HAVING", by decide⟩ printable.having fromOrder (by decide)
    (by decide) (by decide)
  have orderBy := orderByClause_tokens style printable.orderBy fromLimit (by decide)
    (by decide) (by decide)
  have limit := countClause_tokens ⟨"LIMIT", by decide⟩ s.limit last (by decide)
  rw [statement, Statement.tokens, bind_of_ok (keyword_join ⟨"SELECT", by decide⟩ _),
    bind_of_ok distinct, bind_of_ok columns, bind_of_ok from?, bind_of_ok filter,
    bind_of_ok groupBy, bind_of_ok having, bind_of_ok orderBy, bind_of_ok limit, bind_of_ok offset,
    same]
  rfl

end Grammar

/-! ## Around the statement -/

namespace Token

theorem getLast?_between (q : Char) (s : String) : (between q s).getLast? = some q := by
  rw [between, ← List.cons_append, List.getLast?_concat]

theorem getLast?_spelling (token : Token) :
    ∀ c ∈ token.spelling.getLast?, Text.isBlank c = false ∧ c ≠ ';' := by
  have digits (n : Nat) : ∀ c ∈ (Nat.toDigits 10 n).getLast?, Text.isBlank c = false ∧ c ≠ ';' := by
    intro c last
    have digit := Numeral.isDigit_of_mem (List.mem_of_getLast? last)
    have range := Numeral.toNat_of_isDigit digit
    refine ⟨?_, Numeral.ne_of_isDigit digit (by decide)⟩
    simp [Text.isBlank]
    omega
  have checked {s : List Char} (all : s.getLast?.all (fun c => !Text.isBlank c && c ≠ ';') = true) :
      ∀ c ∈ s.getLast?, Text.isBlank c = false ∧ c ≠ ';' := by
    intro c last
    rw [Option.mem_def.mp last] at all
    simpa using all
  cases token with
  | keyword word =>
    have letters : ∀ w ∈ keywords,
        w.toList.getLast?.all (fun c => !Text.isBlank c && c ≠ ';') = true := by decide
    exact checked (letters word.val word.property)
  | comparison operator => cases operator <;> exact checked (by decide)
  | comma => exact checked (by decide)
  | plus => exact checked (by decide)
  | star => exact checked (by decide)
  | opening => exact checked (by decide)
  | closing => exact checked (by decide)
  | name s => exact checked (by rw [spelling, getLast?_between]; decide)
  | text s => exact checked (by rw [spelling, getLast?_between]; decide)
  | integer i =>
    rw [spelling, Numeral.intText_eq]
    split
    · obtain ⟨c, ds, spelling, _⟩ := Numeral.toDigits_eq_cons i.toInt.natAbs
      rw [spelling, List.getLast?_cons_cons, ← spelling]
      exact digits _
    · exact digits _
  | count n => exact digits _
  | call function => exact checked (by rw [spelling, List.getLast?_concat]; decide)

theorem getLast?_join (tokens : List Token) :
    ∀ c ∈ (join tokens).getLast?, Text.isBlank c = false ∧ c ≠ ';' := by
  induction tokens with
  | nil => simp [join_nil]
  | cons token tokens ih =>
    rw [join_cons]
    cases tokens with
    | nil =>
      rw [tail, List.append_nil]
      exact token.getLast?_spelling
    | cons other tokens =>
      obtain ⟨c, letters, spelling, _⟩ := other.spelling_cons
      rw [tail, List.getLast?_append]
      rw [join_cons, spelling, List.cons_append] at ih ⊢
      rw [List.getLast?_cons_cons]
      obtain ⟨d, last⟩ := Option.isSome_iff_exists.mp
        (List.getLast?_isSome.mpr (List.cons_ne_nil c (letters ++ tail tokens)))
      rw [last] at ih ⊢
      exact ih

end Token

theorem Expression.Printable.resolve {e : Expression} (printable : e.Printable)
    (table : Option NamedTable) : e.resolve table = e := by
  induction printable with
  | simple simple => cases simple <;> rfl
  | add _ _ ihl ihr => rw [Expression.resolve, ihl, ihr]
  | countRows => rfl
  | count s => rfl
  | aggregate _ simple => cases simple <;> rfl

theorem Condition.Printable.resolve {c : Condition} (printable : c.Printable)
    (table : Option NamedTable) : c.resolve table = c := by
  induction printable with
  | compare l r => rw [Condition.resolve, l.resolve, r.resolve]
  | between e low high => rw [Condition.resolve, e.resolve, low.resolve, high.resolve]
  | like _ e => rw [Condition.resolve, e.resolve]
  | isNull e => rw [Condition.resolve, e.resolve]
  | not _ ih => rw [Condition.resolve, ih]
  | and _ _ ihl ihr => rw [Condition.resolve, ihl, ihr]
  | or _ _ ihl ihr => rw [Condition.resolve, ihl, ihr]

namespace Statement

theorem resolve_of_printable {s : Statement} (printable : s.Printable) : s.resolve = s := by
  have conditions {c? : Option Condition} (table : Option NamedTable)
      (printable : ∀ c ∈ c?, c.Printable) : c?.map (·.resolve table) = c? := by
    cases c? with
    | none => rfl
    | some c => exact congrArg some ((printable c rfl).resolve table)
  have columns : (s.columns.map fun c => { c with expression := c.expression.resolve s.from? }) =
      s.columns := by
    rcases printable.columns with wildcard | ⟨_, printable⟩
    · rw [wildcard]
      rfl
    · refine (List.map_congr_left fun c mem => ?_).trans (List.map_id _)
      rw [(printable c mem).1.resolve]
      rfl
  have groupBy (table : Option NamedTable) : s.groupBy.map (·.resolve table) = s.groupBy :=
    (List.map_congr_left fun e mem => (printable.groupBy e mem).resolve table).trans (List.map_id _)
  have orderBy (table : Option NamedTable) :
      (s.orderBy.map fun o => { o with expression := o.expression.resolve table }) = s.orderBy := by
    refine (List.map_congr_left fun o mem => ?_).trans (List.map_id _)
    rw [(printable.orderBy o mem).resolve]
    rfl
  unfold resolve
  rw [columns]
  split
  · rfl
  · rw [conditions _ printable.filter, conditions _ printable.having, groupBy, orderBy]

theorem body_of_ends {s : List Char} (first : ∀ c ∈ s.head?, Text.isBlank c = false)
    (last : ∀ c ∈ s.getLast?, Text.isBlank c = false ∧ c ≠ ';') : body s = s := by
  have noSemicolon : ∀ c ∈ s.reverse.head?, (c = ';' : Bool) = false := by
    rw [List.head?_reverse]
    exact fun c final => decide_eq_false (last c final).2
  rw [body, Text.trim_of_ends first fun c final => (last c final).1,
    Text.dropWhile_of_head? noSemicolon, List.reverse_reverse]

/-- A written statement is read back as it was. -/
theorem parse_print {s : Statement} (style : Style) (printable : s.Printable) :
    parse (s.print style) = .ok s := by
  have first : ∀ c ∈ (join (s.tokens style)).head?, Text.isBlank c = false := by
    intro c head
    rw [tokens, Token.join_cons] at head
    obtain rfl : 'S' = c := Option.some.inj head
    decide
  have whole := body_of_ends first (Token.getLast?_join _)
  simp only [parse, print, String.toList_ofList, whole, Grammar.statement_tokens style printable]
  rw [resolve_of_printable printable]
  rfl

theorem parse_print_nested :
    parse ("SELECT \"a\"\"b\" + ( NULL + -5 ) AS \"x y\" FROM \"t;\" WHERE NOT ( \"\" = COUNT( * )" ++
        " OR 'it''s' BETWEEN 1 AND 2 AND \"c\" LIKE '%' ) LIMIT 3") =
      .ok {
        columns := [⟨.add (.column none "a\"b") (.add (.literal .null) (.literal (.integer (-5)))),
          some "x y"⟩]
        from? := some ⟨"t;", none⟩
        filter := some (.not (.or (.compare .eq (.column none "") .countRows)
          (.and (.between (.literal (.text "it's")) (.literal (.integer 1)) (.literal (.integer 2)))
            (.like (.column none "c") "%"))))
        limit := some 3 } := by
  have integer (i : Int64) : (Expression.literal (.integer i)).Printable :=
    .simple (.literal (.integer i))
  have column (name : String) : (Expression.column none name).Printable := .simple (.column name)
  refine (congrArg parse ?_).trans
    (parse_print {} ⟨.inr ⟨by simp, ?_⟩, ?_, by simp, by simp, by simp⟩)
  · decide +kernel
  · intro c mem
    obtain rfl := List.mem_singleton.mp mem
    exact ⟨.add (column _) (.add (.simple (.literal .null)) (integer _)), by simp⟩
  · rintro c ⟨⟩
    exact .not (.or (.compare (column _) .countRows)
      (.and (.between (.simple (.literal (.text _))) (integer _) (integer _)) (.like _ (column _))))

end Statement

end PlainTables
