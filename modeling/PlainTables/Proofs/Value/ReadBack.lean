import PlainTables.Coercion
import PlainTables.Proofs.Calendar.Reading

/-!
# Reading printed values

A printed integer, date, time of day or timestamp is found to be of its own type, and read in this type it is the
same value again. All types that are tried earlier reject the text.
-/

namespace PlainTables

/-! ## What is no number -/

section

variable {ds rest : List Char} {c : Char}

theorem Numeral.readInt64?_eq_none (digits : ∀ d ∈ ds, d.isDigit = true) (nonempty : ds ≠ [])
    (other : c.isDigit = false) : readInt64? (ds ++ c :: rest) = none := by
  obtain ⟨d, t, rfl⟩ := List.exists_cons_of_ne_nil nonempty
  have first : d.isDigit = true := digits d List.mem_cons_self
  have notAll : (d :: t ++ c :: rest).all Char.isDigit = false := by
    simp [other]
  rw [readInt64?, List.cons_append, splitSign_of_isDigit first, ← List.cons_append]
  simp only [notAll, Bool.not_false, Bool.or_true, if_true]

theorem Double.read?_eq_none (digits : ∀ d ∈ ds, d.isDigit = true) (nonempty : ds ≠ [])
    (other : c.isDigit = false) (noPoint : c ≠ '.') (noExponent : c ≠ 'e' ∧ c ≠ 'E') :
    read? (ds ++ c :: rest) = none := by
  obtain ⟨d, t, rfl⟩ := List.exists_cons_of_ne_nil nonempty
  have first : d.isDigit = true := digits d List.mem_cons_self
  have whole : (d :: t ++ c :: rest).takeWhile Char.isDigit = d :: t := by
    rw [List.takeWhile_append_of_pos digits, List.takeWhile_cons_of_neg (by simp [other]),
      List.append_nil]
  have behind : (d :: t ++ c :: rest).dropWhile Char.isDigit = c :: rest := by
    rw [List.dropWhile_append_of_pos digits, List.dropWhile_cons_of_neg (by simp [other])]
  have exponent : readExponent? (c :: rest) = none := by
    simp [readExponent?, noExponent.1, noExponent.2]
  rw [read?, List.cons_append, Numeral.splitSign_of_isDigit first, ← List.cons_append]
  dsimp only
  rw [whole, behind]
  split
  · next point => exact absurd (List.cons.inj point).1 noPoint
  · simp only [List.isEmpty_cons, Bool.false_and, Bool.false_eq_true, if_false, exponent,
      Option.map_none]

end

/-! ## Found types -/

namespace Formats

variable {c : Formats} {raw : String} {type : DataType} {v : Value}

theorem infer_eq {before after : List DataType} (kept : Text.trimmed raw = raw)
    (order : DataType.inferenceOrder = before ++ type :: after)
    (earlier : ∀ other ∈ before, c.read? raw other = none) (read : c.read? raw type = some v) :
    c.infer raw = type := by
  have none : before.find? (fun type => (c.read? raw type).isSome) = none := by
    rw [List.find?_eq_none]
    intro other mem
    rw [earlier other mem]
    exact Bool.false_ne_true
  rw [infer, kept, order, List.find?_append, none, List.find?_cons_of_pos (by rw [read]; rfl)]
  rfl

theorem coerce_eq (kept : Text.trimmed raw = raw) (nonempty : raw.isEmpty = false)
    (noText : type ≠ .string) (read : c.read? raw type = some v) : c.coerce raw type = .ok v := by
  unfold coerce
  split
  · exact absurd rfl noText
  · simp only [kept, nonempty, read, Bool.false_eq_true, if_false]

end Formats

/-! ## Printed values -/

structure DigitEnds (s : List Char) : Prop where
  first : ∃ c ∈ s.head?, c.isDigit = true
  last : ∃ c ∈ s.getLast?, c.isDigit = true

namespace DigitEnds

variable {s t : List Char}

theorem fixed (count n : Nat) : DigitEnds (Numeral.fixed (count + 1) n) where
  first := by
    obtain ⟨c, ds, digits, digit⟩ := Numeral.fixed_eq_cons count n
    rw [digits]
    exact ⟨c, rfl, digit⟩
  last := by
    have mem : Nat.digitChar (n % 10) ∈ Numeral.fixed (count + 1) n :=
      List.mem_append_right _ (List.mem_singleton_self _)
    rw [Numeral.fixed, List.getLast?_concat]
    exact ⟨_, rfl, Numeral.isDigit_of_mem_fixed mem⟩

theorem join (front : DigitEnds s) (back : DigitEnds t) (c : Char) : DigitEnds (s ++ c :: t) where
  first := by
    obtain ⟨d, head, digit⟩ := front.first
    obtain ⟨s, rfl⟩ := List.head?_eq_some_iff.mp head
    exact ⟨d, rfl, digit⟩
  last := by
    obtain ⟨d, last, digit⟩ := back.last
    rw [List.getLast?_append, List.getLast?_cons, Option.mem_def.mp last]
    exact ⟨d, rfl, digit⟩

theorem ne_nil (ends : DigitEnds s) : s ≠ [] := by
  obtain ⟨c, head, -⟩ := ends.first
  exact List.ne_nil_of_mem (List.mem_of_mem_head? head)

theorem trim (ends : DigitEnds s) : Text.trim s = s := by
  obtain ⟨c, head, digit⟩ := ends.first
  obtain ⟨d, last, digit'⟩ := ends.last
  refine Text.trim_of_ends ?_ ?_
  · intro e mem
    obtain rfl := Option.mem_unique head mem
    exact Numeral.not_isBlank_of_isDigit digit
  · intro e mem
    obtain rfl := Option.mem_unique last mem
    exact Numeral.not_isBlank_of_isDigit digit'

theorem date {d : Date} (four : d.isFourDigit = true) : DigitEnds d.text := by
  rw [Date.text_eq four]
  exact (fixed 3 _).join ((fixed 1 _).join (fixed 1 _) '-') '-'

theorem time (t : TimeOfDay) : DigitEnds t.text := by
  rw [t.text_eq]
  exact (fixed 1 _).join ((fixed 1 _).join (fixed 1 _) ':') ':'

theorem timestamp {t : Timestamp} (plain : t.isPlain = true) : DigitEnds t.text :=
  (date (Bool.and_eq_true_iff.mp plain).1).join (time t.time) ' '

end DigitEnds

namespace Formats

/-- A value is read back from its text where the text is read as this value, and in no type that is tried
earlier. -/
theorem reads_back_of {v : Value} (before : List DataType) {after : List DataType}
    (trims : Text.trim v.chars = v.chars) (nonempty : v.chars ≠ []) (noText : v.type ≠ .string)
    (order : DataType.inferenceOrder = before ++ v.type :: after)
    (earlier : ∀ other ∈ before, read? {} (String.ofList v.chars) other = none)
    (read : read? {} (String.ofList v.chars) v.type = some v) :
    infer {} v.display = v.type ∧ coerce {} v.display v.type = .ok v := by
  have shown : v.display = String.ofList v.chars := by
    cases v with
    | text s => exact absurd rfl noText
    | _ => rfl
  have kept : Text.trimmed (String.ofList v.chars) = String.ofList v.chars := by
    rw [Text.trimmed, String.toList_ofList, trims]
  have some : (String.ofList v.chars).isEmpty = false := by
    simpa using nonempty
  rw [shown]
  exact ⟨infer_eq kept order earlier read, coerce_eq kept some noText read⟩

/-! The patterns in which values are printed are the default ones. -/

theorem read?_date (raw : String) : read? {} raw .date = (Date.read? "%Y-%m-%d" raw).map .date := rfl

theorem read?_time (raw : String) : read? {} raw .time = (TimeOfDay.read? "%H:%M:%S" raw).map .time :=
  rfl

theorem read?_timestamp (raw : String) :
    read? {} raw .timestamp = (Timestamp.read? "%Y-%m-%d %H:%M:%S" raw).map .timestamp := rfl

theorem no_number {s : List Char} {count n : Nat} {c : Char} {rest : List Char}
    (text : s = Numeral.fixed (count + 1) n ++ c :: rest) (mark : c = '-' ∨ c = ':') :
    ∀ type ∈ [DataType.integer, .double], read? {} (String.ofList s) type = none := by
  have digits : ∀ d ∈ Numeral.fixed (count + 1) n, d.isDigit = true := fun _ =>
    Numeral.isDigit_of_mem_fixed
  have nonempty := (DigitEnds.fixed count n).ne_nil
  obtain ⟨noDigit, noPoint, noExponent⟩ : c.isDigit = false ∧ c ≠ '.' ∧ c ≠ 'e' ∧ c ≠ 'E' := by
    rcases mark with rfl | rfl <;> decide
  simp only [List.forall_mem_cons, read?, String.toList_ofList, text,
    Numeral.readInt64?_eq_none digits nonempty noDigit,
    Double.read?_eq_none digits nonempty noDigit noPoint noExponent]
  exact ⟨rfl, rfl, List.forall_mem_nil _⟩

end Formats

/-- The value has a printed form that keeps all of it: it is an integer, a day of a year with four digits, or
a time without a fraction of a second. -/
def Value.isPlain : Value → Bool
  | .integer _ => true
  | .date d => d.isFourDigit
  | .time t => t.isWholeSecond
  | .timestamp t => t.isPlain
  | .null | .double _ | .text _ => false

theorem Numeral.intText_ne_nil (i : Int) : intText i ≠ [] := by
  rw [intText_eq]
  split
  · exact List.cons_ne_nil _ _
  · exact Nat.toDigits_ne_nil

/-- The text of a plain value is found to be of the type of the value, and read in this type it is the value. -/
theorem Formats.reads_back {v : Value} (plain : v.isPlain = true) :
    infer {} v.display = v.type ∧ coerce {} v.display v.type = .ok v := by
  cases v with
  | null | double _ | text _ => cases plain
  | integer i =>
    have read : read? {} (String.ofList (Numeral.intText i.toInt)) .integer = some (.integer i) := by
      rw [read?, String.toList_ofList, Numeral.readInt64?_intText]
      rfl
    exact reads_back_of [] (Numeral.trim_intText _) (Numeral.intText_ne_nil _) (by rintro ⟨⟩) rfl
      (List.forall_mem_nil _) read
  | date d =>
    have ends := DigitEnds.date plain
    have read : read? {} (String.ofList d.text) .date = some (.date d) := by
      rw [read?_date, Date.read?_text plain, Option.map_some]
    exact reads_back_of [.integer, .double] ends.trim ends.ne_nil (by rintro ⟨⟩) rfl
      (no_number (Date.text_eq plain) (.inl rfl)) read
  | time t =>
    have ends := DigitEnds.time t
    have read : read? {} (String.ofList t.text) .time = some (.time t) := by
      rw [read?_time, TimeOfDay.read?_text plain, Option.map_some]
    have noDate : read? {} (String.ofList t.text) .date = none := by
      rw [read?_date, Date.read?_time, Option.map_none]
    have earlier : ∀ type ∈ [.integer, .double] ++ [.date], read? {} (String.ofList t.text) type = none :=
      List.forall_mem_append.mpr
        ⟨no_number t.text_eq (.inr rfl), List.forall_mem_singleton.mpr noDate⟩
    exact reads_back_of _ ends.trim ends.ne_nil (by rintro ⟨⟩) rfl earlier read
  | timestamp t =>
    have ends := DigitEnds.timestamp plain
    have read : read? {} (String.ofList t.text) .timestamp = some (.timestamp t) := by
      rw [read?_timestamp, Timestamp.read?_text plain, Option.map_some]
    have start : ∃ rest, t.text = Numeral.fixed 4 t.date.year.toNat ++ '-' :: rest := by
      rw [Timestamp.text, Date.text_eq (Bool.and_eq_true_iff.mp plain).1, List.append_assoc]
      exact ⟨_, rfl⟩
    obtain ⟨rest, start⟩ := start
    have noDate : read? {} (String.ofList t.text) .date = none := by
      rw [read?_date, Date.read?_timestamp plain, Option.map_none]
    have noTime : read? {} (String.ofList t.text) .time = none := by
      rw [read?_time, TimeOfDay.read?_timestamp plain, Option.map_none]
    have earlier : ∀ type ∈ [.integer, .double] ++ [.date, .time],
        read? {} (String.ofList t.text) type = none :=
      List.forall_mem_append.mpr ⟨no_number start (.inl rfl),
        List.forall_mem_cons.mpr ⟨noDate, List.forall_mem_singleton.mpr noTime⟩⟩
    exact reads_back_of _ ends.trim ends.ne_nil (by rintro ⟨⟩) rfl earlier read

/-- The smallest integer, and a leap second at the end of a year. -/
theorem Formats.reads_back_extremes :
    (infer {} "-9223372036854775808" = .integer ∧
      coerce {} "-9223372036854775808" .integer = .ok (.integer Int64.minValue)) ∧
    (infer {} "0999-12-31 23:59:60" = .timestamp ∧
      coerce {} "0999-12-31 23:59:60" .timestamp =
        .ok (.timestamp ⟨⟨999, 12, 31, by decide⟩, ⟨23, 59, 59, 1000000000, by decide⟩⟩)) := by
  have smallest := reads_back (v := .integer Int64.minValue) rfl
  have leap := reads_back
    (v := .timestamp ⟨⟨999, 12, 31, by decide⟩, ⟨23, 59, 59, 1000000000, by decide⟩⟩) rfl
  have shown : (Value.integer Int64.minValue).display = "-9223372036854775808" := by decide +kernel
  have shown' : (Value.timestamp ⟨⟨999, 12, 31, by decide⟩, ⟨23, 59, 59, 1000000000, by decide⟩⟩).display =
      "0999-12-31 23:59:60" := by decide +kernel
  rw [shown] at smallest
  rw [shown'] at leap
  exact ⟨smallest, leap⟩

end PlainTables
