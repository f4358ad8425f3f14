import PlainTables.Proofs.Text.Ends
import PlainTables.Value

/-!
# Numerals

The decimal digits of a number read back as this number. There are no blanks among them.
-/

namespace PlainTables.Numeral

theorem isDigit_of_mem {n : Nat} {c : Char} (mem : c ∈ Nat.toDigits 10 n) : c.isDigit = true :=
  Nat.isDigit_of_mem_toDigits (by decide) (by decide) mem

theorem toDigits_eq_cons (n : Nat) :
    ∃ c ds, Nat.toDigits 10 n = c :: ds ∧ c.isDigit = true := by
  obtain ⟨c, ds, digits⟩ := List.exists_cons_of_ne_nil (Nat.toDigits_ne_nil (n := n) (b := 10))
  exact ⟨c, ds, digits, isDigit_of_mem (n := n) (digits ▸ List.mem_cons_self)⟩

theorem toNat_of_isDigit {c : Char} (digit : c.isDigit = true) :
    48 ≤ c.toNat ∧ c.toNat ≤ 57 := by
  simpa [Char.isDigit, UInt32.le_iff_toNat_le] using digit

theorem ne_of_isDigit {c d : Char} (digit : c.isDigit = true)
    (other : d.toNat < 48 ∨ 57 < d.toNat) : c ≠ d := by
  rintro rfl
  have range := toNat_of_isDigit digit
  omega

theorem intText_eq (i : Int) :
    intText i = if i < 0 then '-' :: Nat.toDigits 10 i.natAbs else Nat.toDigits 10 i.natAbs :=
  rfl

theorem not_isBlank_of_isDigit {c : Char} (digit : c.isDigit = true) : Text.isBlank c = false := by
  have range := toNat_of_isDigit digit
  simp only [Text.isBlank, Bool.or_eq_false_iff, Bool.and_eq_false_iff, decide_eq_false_iff_not]
  omega

theorem trim_intText (i : Int) : Text.trim (intText i) = intText i := by
  apply Text.trim_of_printing
  intro c mem
  rw [intText_eq] at mem
  have cases : c = '-' ∨ c ∈ Nat.toDigits 10 i.natAbs := by
    split at mem
    · exact List.mem_cons.mp mem
    · exact .inr mem
  rcases cases with rfl | digit
  · decide
  · exact not_isBlank_of_isDigit (isDigit_of_mem digit)

theorem splitSign_of_isDigit {c : Char} (digit : c.isDigit = true) (s : List Char) :
    Double.splitSign (c :: s) = (false, c :: s) := by
  unfold Double.splitSign
  split
  · next same => exact absurd (List.cons.inj same).1 (ne_of_isDigit digit (by decide))
  · next same => exact absurd (List.cons.inj same).1 (ne_of_isDigit digit (by decide))
  · rfl

theorem splitSign_intText (i : Int) :
    Double.splitSign (intText i) = (decide (i < 0), Nat.toDigits 10 i.natAbs) := by
  rw [intText_eq]
  by_cases negative : i < 0
  · simp [negative, Double.splitSign]
  · obtain ⟨c, ds, digits, digit⟩ := toDigits_eq_cons i.natAbs
    rw [if_neg negative, decide_eq_false negative, digits]
    exact splitSign_of_isDigit digit ds

theorem readInt64?_intText (i : Int64) : readInt64? (intText i.toInt) = some i := by
  have digits : (Nat.toDigits 10 i.toInt.natAbs).all Char.isDigit = true :=
    List.all_eq_true.mpr fun c mem => isDigit_of_mem mem
  have nonempty : (Nat.toDigits 10 i.toInt.natAbs).isEmpty = false :=
    List.isEmpty_eq_false_iff.mpr Nat.toDigits_ne_nil
  have sign : (if decide (i.toInt < 0) = true then -(i.toInt.natAbs : Int) else i.toInt.natAbs) =
      i.toInt := by
    split
    · next negative =>
      have := of_decide_eq_true negative
      omega
    · next positive =>
      have : ¬ i.toInt < 0 := by simpa using positive
      omega
  rw [readInt64?, splitSign_intText]
  simp only [digits, nonempty, Bool.not_true, Bool.or_false, Bool.false_eq_true, if_false,
    Nat.ofDigitChars_ten_toDigits, sign]
  rw [if_pos ⟨i.minValue_le_toInt, i.toInt_le⟩, Int64.ofInt_toInt]

theorem readUInt64?_cons {c : Char} (ds : List Char) (digit : c.isDigit = true) :
    readUInt64? (c :: ds) =
      if !(c :: ds).all Char.isDigit then none
      else if Nat.ofDigitChars 10 (c :: ds) 0 < UInt64.size then
        some (UInt64.ofNat (Nat.ofDigitChars 10 (c :: ds) 0))
      else none := by
  unfold readUInt64?
  split
  · next same => exact absurd (List.cons.inj same).1 (ne_of_isDigit digit (by decide))
  · rfl

theorem readUInt64?_toDigits (n : UInt64) : readUInt64? (Nat.toDigits 10 n.toNat) = some n := by
  have digits : (Nat.toDigits 10 n.toNat).all Char.isDigit = true :=
    List.all_eq_true.mpr fun c mem => isDigit_of_mem mem
  have value : Nat.ofDigitChars 10 (Nat.toDigits 10 n.toNat) 0 = n.toNat :=
    Nat.ofDigitChars_ten_toDigits
  obtain ⟨c, ds, spelling, digit⟩ := toDigits_eq_cons n.toNat
  rw [spelling] at digits value ⊢
  rw [readUInt64?_cons ds digit, digits, value, if_neg (by decide), if_pos n.toNat_lt,
    UInt64.ofNat_toNat]

end PlainTables.Numeral
