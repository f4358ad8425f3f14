import PlainTables.Row

/-!
# Names up to case

Names that differ in the case of Latin letters alone are the same for every column look-up, which goes by
the upper case of all letters.
-/

namespace PlainTables

namespace Text

theorem toNat_toLower (c : Char) :
    c.toLower.toNat = if 65 ≤ c.toNat ∧ c.toNat ≤ 90 then c.toNat + 32 else c.toNat := by
  by_cases capital : 65 ≤ c.toNat ∧ c.toNat ≤ 90
  · have letter : c.val ≥ 'A'.val ∧ c.val ≤ 'Z'.val := capital
    have sum : (c.val + 32).toNat = c.toNat + 32 := by
      have : c.val.toNat ≤ 90 := capital.2
      rw [UInt32.toNat_add, show (32 : UInt32).toNat = 32 from rfl, Nat.mod_eq_of_lt (by omega)]
      rfl
    have lowered : c.toLower = ⟨c.val + 32, _⟩ := dif_pos letter
    rw [if_pos capital, lowered, ← sum]
    rfl
  · have other : ¬ (c.val ≥ 'A'.val ∧ c.val ≤ 'Z'.val) := capital
    have lowered : c.toLower = c := dif_neg other
    rw [if_neg capital, lowered]

theorem toNat_toUpper (c : Char) :
    c.toUpper.toNat = if 97 ≤ c.toNat ∧ c.toNat ≤ 122 then c.toNat - 32 else c.toNat := by
  by_cases small : 97 ≤ c.toNat ∧ c.toNat ≤ 122
  · have letter : 'a'.val ≤ c.val ∧ c.val ≤ 'z'.val := small
    have difference : (c.val + ('A'.val - 'a'.val)).toNat = c.toNat - 32 := by
      have : 97 ≤ c.val.toNat ∧ c.val.toNat ≤ 122 := small
      rw [UInt32.toNat_add, show ('A'.val - 'a'.val : UInt32).toNat = 2 ^ 32 - 32 from rfl]
      change _ = c.val.toNat - 32
      omega
    have raised : c.toUpper = ⟨c.val + ('A'.val - 'a'.val), _⟩ := dif_pos letter
    rw [if_pos small, raised, ← difference]
    rfl
  · have other : ¬ ('a'.val ≤ c.val ∧ c.val ≤ 'z'.val) := small
    have raised : c.toUpper = c := dif_neg other
    rw [if_neg small, raised]

/-- Characters with one lower case are the same, or Latin letters with one upper case. -/
theorem eq_or_latin_of_toLower {c d : Char} (same : c.toLower = d.toLower) :
    c = d ∨ c.toNat < 128 ∧ d.toNat < 128 ∧ c.toUpper = d.toUpper := by
  have lower := congrArg Char.toNat same
  rw [toNat_toLower, toNat_toLower] at lower
  have upper : c.toUpper = d.toUpper ↔ c.toUpper.toNat = d.toUpper.toNat := Char.toNat_inj.symm
  rw [toNat_toUpper, toNat_toUpper] at upper
  rw [upper, ← Char.toNat_inj]
  split at lower <;> split at lower <;> split <;> split <;> omega

theorem upperChar_congr {c d : Char} (same : c.toLower = d.toLower) : upperChar c = upperChar d := by
  rcases eq_or_latin_of_toLower same with rfl | ⟨latin, latin', upper⟩
  · rfl
  · rw [upperChar, upperChar, if_pos latin, if_pos latin', upper]

theorem flatMap_upperChar_congr {s t : List Char} (same : s.map Char.toLower = t.map Char.toLower) :
    s.flatMap upperChar = t.flatMap upperChar := by
  induction s generalizing t with
  | nil =>
    rw [List.map_nil] at same
    rw [List.map_eq_nil_iff.mp same.symm]
  | cons c s ih =>
    obtain ⟨d, t, rfl, first, rest⟩ := List.map_eq_cons_iff.mp same.symm
    rw [List.flatMap_cons, List.flatMap_cons, upperChar_congr first.symm, ih rest.symm]

/-- Names that are the same up to the case of Latin letters have one upper case. -/
theorem uppercase_congr {a b : String} (same : sameName a b = true) : uppercase a = uppercase b := by
  have same : a.toList.map Char.toLower = b.toList.map Char.toLower := of_decide_eq_true same
  rw [uppercase, uppercase, flatMap_upperChar_congr same]

theorem sameName_trans {a b c : String} (first : sameName a b = true) (second : sameName b c = true) :
    sameName a c = true := by
  have first : a.toList.map Char.toLower = b.toList.map Char.toLower := of_decide_eq_true first
  have second : b.toList.map Char.toLower = c.toList.map Char.toLower := of_decide_eq_true second
  exact decide_eq_true (first.trans second)

end Text

theorem Columns.position?_congr (c : Columns) {a b : String} (same : Text.sameName a b = true) :
    c.position? a = c.position? b := by
  unfold position? Columns.same
  rw [Text.uppercase_congr same]

end PlainTables
