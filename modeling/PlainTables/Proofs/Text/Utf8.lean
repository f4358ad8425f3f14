import PlainTables.Text.Utf8

/-!
# UTF-8 of valid texts

Decoding takes back what encoding gives: the first byte of a character fixes the range of the second
one, and every range holds the bytes of the characters that start in it. Texts are ordered by their characters,
and that is the order of their bytes, too.
-/

namespace PlainTables.Utf8

theorem toNat_byte {n : Nat} (small : n < 256) : (UInt8.ofNat n).toNat = n := by
  simpa using small

theorem decodeFrom_middle {bits missing low high n : Nat} (bytes : List UInt8) (small : n < 256)
    (above : low ≤ n) (below : n ≤ high) :
    decodeFrom (some ⟨bits, missing + 2, low, high⟩) (UInt8.ofNat n :: bytes) =
      decodeFrom (some ⟨bits * 64 + n % 64, missing + 1, 0x80, 0xbf⟩) bytes := by
  simp only [decodeFrom, step, toNat_byte small, above, below, and_self, if_true]
  rfl

theorem decodeFrom_last {bits low high n : Nat} (bytes : List UInt8) (small : n < 256)
    (above : low ≤ n) (below : n ≤ high) :
    decodeFrom (some ⟨bits, 1, low, high⟩) (UInt8.ofNat n :: bytes) =
      Char.ofNat (bits * 64 + n % 64) :: decodeFrom none bytes := by
  simp only [decodeFrom, step, toNat_byte small, above, below, and_self, if_true]
  rfl

theorem start_of_two {v : Nat} (above : 0x7f < v) (below : v ≤ 0x7ff) :
    start (v / 64 % 0x20 + 0xc0) = ([], some ⟨v / 64, 1, 0x80, 0xbf⟩) := by
  have notAscii : ¬ v / 64 % 0x20 + 0xc0 < 0x80 := by omega
  have inRange : 0xc2 ≤ v / 64 % 0x20 + 0xc0 ∧ v / 64 % 0x20 + 0xc0 ≤ 0xdf := by omega
  have bits : (v / 64 % 0x20 + 0xc0) % 32 = v / 64 := by omega
  simp only [start, notAscii, inRange, bits, and_self, if_true, if_false]

theorem start_of_three {v : Nat} (above : 0x7ff < v) (below : v ≤ 0xffff)
    (scalar : v < 0xd800 ∨ 0xdfff < v) :
    ∃ low high, start (v / 4096 % 0x10 + 0xe0) = ([], some ⟨v / 4096, 2, low, high⟩) ∧
      low ≤ v / 64 % 0x40 + 0x80 ∧ v / 64 % 0x40 + 0x80 ≤ high := by
  have lead : v / 4096 % 0x10 = v / 4096 := by omega
  rw [lead]
  unfold start
  by_cases first : v / 4096 = 0
  · exact ⟨0xa0, 0xbf, by rw [first]; rfl, by omega, by omega⟩
  · by_cases surrogate : v / 4096 = 13
    · exact ⟨0x80, 0x9f, by rw [surrogate]; rfl, by omega, by omega⟩
    · refine ⟨0x80, 0xbf, ?_, by omega, by omega⟩
      have bits : (v / 4096 + 0xe0) % 16 = v / 4096 := by omega
      rw [if_neg (by omega), if_neg (by omega), if_neg (by omega), if_neg (by omega),
        if_pos (by omega), bits]

theorem start_of_four {v : Nat} (above : 0xffff < v) (below : v < 0x110000) :
    ∃ low high, start (v / 262144 % 0x08 + 0xf0) = ([], some ⟨v / 262144, 3, low, high⟩) ∧
      low ≤ v / 4096 % 0x40 + 0x80 ∧ v / 4096 % 0x40 + 0x80 ≤ high := by
  have lead : v / 262144 % 0x08 = v / 262144 := by omega
  rw [lead]
  unfold start
  by_cases first : v / 262144 = 0
  · exact ⟨0x90, 0xbf, by rw [first]; rfl, by omega, by omega⟩
  · by_cases last : v / 262144 = 4
    · exact ⟨0x80, 0x8f, by rw [last]; rfl, by omega, by omega⟩
    · refine ⟨0x80, 0xbf, ?_, by omega, by omega⟩
      have bits : (v / 262144 + 0xf0) % 8 = v / 262144 := by omega
      rw [if_neg (by omega), if_neg (by omega), if_neg (by omega), if_neg (by omega),
        if_neg (by omega), if_neg (by omega), if_neg (by omega), if_pos (by omega), bits]

theorem toNat_scalar (c : Char) :
    (c.val.toNat < 0xd800 ∨ 0xdfff < c.val.toNat) ∧ c.val.toNat < 0x110000 := by
  rcases c.valid with low | ⟨high, bound⟩
  · exact ⟨.inl low, by change c.val.toNat < 0xd800 at low; omega⟩
  · exact ⟨.inr high, bound⟩

theorem decodeFrom_encodeChar (c : Char) (bytes : List UInt8) :
    decodeFrom none (String.utf8EncodeChar c ++ bytes) = c :: decodeFrom none bytes := by
  obtain ⟨scalar, bound⟩ := toNat_scalar c
  have self : Char.ofNat c.val.toNat = c := Char.ofNat_toNat c
  unfold String.utf8EncodeChar
  generalize c.val.toNat = v at scalar bound self
  simp only
  split
  · have ascii : start v = ([Char.ofNat v], none) := by
      have : v < 0x80 := by omega
      simp [start, this]
    simp only [List.cons_append, List.nil_append, decodeFrom, step, toNat_byte (n := v) (by omega),
      ascii, self]
  · split
    · have first := toNat_byte (n := v / 64 % 0x20 + 0xc0) (by omega)
      simp only [List.cons_append, List.nil_append]
      rw [decodeFrom, step, first, start_of_two (by omega) (by omega)]
      simp only [List.nil_append]
      rw [decodeFrom_last bytes (by omega) (by omega) (by omega)]
      have value : v / 64 * 64 + (v % 0x40 + 0x80) % 64 = v := by omega
      rw [value, self]
    · split
      · have first := toNat_byte (n := v / 4096 % 0x10 + 0xe0) (by omega)
        obtain ⟨low, high, start, above, below⟩ := start_of_three (v := v) (by omega) (by omega) scalar
        simp only [List.cons_append, List.nil_append]
        rw [decodeFrom, step, first, start]
        simp only [List.nil_append]
        rw [decodeFrom_middle _ (by omega) above below,
          decodeFrom_last bytes (by omega) (by omega) (by omega)]
        have value : (v / 4096 * 64 + (v / 64 % 0x40 + 0x80) % 64) * 64 +
            (v % 0x40 + 0x80) % 64 = v := by omega
        rw [value, self]
      · have first := toNat_byte (n := v / 262144 % 0x08 + 0xf0) (by omega)
        obtain ⟨low, high, start, above, below⟩ := start_of_four (v := v) (by omega) bound
        simp only [List.cons_append, List.nil_append]
        rw [decodeFrom, step, first, start]
        simp only [List.nil_append]
        rw [decodeFrom_middle _ (by omega) above below,
          decodeFrom_middle _ (by omega) (by omega) (by omega),
          decodeFrom_last bytes (by omega) (by omega) (by omega)]
        have value : ((v / 262144 * 64 + (v / 4096 % 0x40 + 0x80) % 64) * 64 +
            (v / 64 % 0x40 + 0x80) % 64) * 64 + (v % 0x40 + 0x80) % 64 = v := by omega
        rw [value, self]

theorem decode_encode (s : List Char) : decode (encode s) = s := by
  unfold decode encode
  induction s with
  | nil => rfl
  | cons c s ih => rw [List.flatMap_cons, decodeFrom_encodeChar, ih]

theorem encodeChar_of_mem {c : Char} {b : UInt8} (mem : b ∈ String.utf8EncodeChar c)
    (ascii : b.toNat < 0x80) : c.toNat = b.toNat ∧ String.utf8EncodeChar c = [b] := by
  have value : c.toNat = c.val.toNat := rfl
  rw [value]
  unfold String.utf8EncodeChar at mem ⊢
  generalize c.val.toNat = v at mem
  simp only at mem ⊢
  -- All bytes of the longer forms are 128 or more.
  have large (n : Nat) (above : 0x80 ≤ n) (below : n < 256) : b ≠ UInt8.ofNat n := by
    rintro rfl
    rw [toNat_byte below] at ascii
    omega
  split at mem
  · next small =>
    obtain rfl : b = UInt8.ofNat v := by simpa using mem
    exact ⟨(toNat_byte (by omega)).symm, by simp [small]⟩
  · split at mem
    · simp only [List.mem_cons, List.not_mem_nil, or_false] at mem
      rcases mem with h | h
      · exact absurd h (large _ (by omega) (by omega))
      · exact absurd h (large _ (by omega) (by omega))
    · split at mem
      · simp only [List.mem_cons, List.not_mem_nil, or_false] at mem
        rcases mem with h | h | h
        · exact absurd h (large _ (by omega) (by omega))
        · exact absurd h (large _ (by omega) (by omega))
        · exact absurd h (large _ (by omega) (by omega))
      · simp only [List.mem_cons, List.not_mem_nil, or_false] at mem
        rcases mem with h | h | h | h
        · exact absurd h (large _ (by omega) (by omega))
        · exact absurd h (large _ (by omega) (by omega))
        · exact absurd h (large _ (by omega) (by omega))
        · exact absurd h (large _ (by omega) (by omega))

theorem encode_append (s t : List Char) : encode (s ++ t) = encode s ++ encode t :=
  List.flatMap_append

theorem encode_cons (c : Char) (s : List Char) :
    encode (c :: s) = String.utf8EncodeChar c ++ encode s :=
  List.flatMap_cons

/-- The byte of an ASCII character is in a text only where the character is. -/
theorem mem_of_mem_encode {s : List Char} {c : Char} (ascii : c.toNat < 0x80)
    (mem : UInt8.ofNat c.toNat ∈ encode s) : c ∈ s := by
  obtain ⟨d, found, byte⟩ := List.mem_flatMap.mp mem
  have small : (UInt8.ofNat c.toNat).toNat = c.toNat := toNat_byte (by omega)
  have same : d.toNat = c.toNat := (encodeChar_of_mem byte (by omega)).1.trans small
  exact Char.toNat_inj.mp same ▸ found

/-- A text ends with the byte of an ASCII character only if it ends with this character. -/
theorem getLast?_of_encode {s : List Char} {c : Char} (ascii : c.toNat < 0x80)
    (last : (encode s).getLast? = some (UInt8.ofNat c.toNat)) : s.getLast? = some c := by
  rcases List.eq_nil_or_concat s with rfl | ⟨front, d, rfl⟩
  · cases last
  · rw [List.concat_eq_append] at last ⊢
    rw [encode_append, encode_cons] at last
    have final : UInt8.ofNat c.toNat ∈ String.utf8EncodeChar d := by
      have nonempty : String.utf8EncodeChar d ≠ [] := String.utf8EncodeChar_ne_nil
      obtain ⟨b, lastByte⟩ := List.getLast?_isSome.mpr nonempty |> Option.isSome_iff_exists.mp
      simp only [encode, List.flatMap_nil, List.append_nil, List.getLast?_append, lastByte,
        Option.some_or, Option.some.injEq] at last
      exact last ▸ List.mem_of_getLast? lastByte
    have small : (UInt8.ofNat c.toNat).toNat = c.toNat := toNat_byte (by omega)
    have same : d.toNat = c.toNat := (encodeChar_of_mem final (by omega)).1.trans small
    rw [Char.toNat_inj.mp same]
    exact List.getLast?_concat

theorem cons_lt_cons {m n : Nat} {x y : List UInt8} (small : n < 256) (le : m ≤ n)
    (tail : m = n → x < y) : UInt8.ofNat m :: x < UInt8.ofNat n :: y := by
  rw [List.cons_lt_cons_iff]
  rcases Nat.lt_or_eq_of_le le with less | same
  · left
    rw [UInt8.lt_iff_toNat_lt, toNat_byte small, toNat_byte (by omega)]
    exact less
  · right
    exact ⟨congrArg UInt8.ofNat same, tail same⟩

theorem encodeChar_append_lt {c d : Char} (less : c < d) (x y : List UInt8) :
    String.utf8EncodeChar c ++ x < String.utf8EncodeChar d ++ y := by
  have less : c.val.toNat < d.val.toNat := less
  have bound := (toNat_scalar d).2
  unfold String.utf8EncodeChar
  generalize c.val.toNat = v at less
  generalize d.val.toNat = w at less bound
  simp only
  -- The first byte grows with the length; among characters of one length the bytes are their digits.
  by_cases one : v ≤ 0x7f
  · rw [if_pos one]
    split
    · exact cons_lt_cons (by omega) (by omega) (by omega)
    · split
      · exact cons_lt_cons (by omega) (by omega) (by omega)
      · split <;> exact cons_lt_cons (by omega) (by omega) (by omega)
  · have longer : ¬ w ≤ 0x7f := by omega
    rw [if_neg one, if_neg longer]
    by_cases two : v ≤ 0x7ff
    · rw [if_pos two]
      split
      · exact cons_lt_cons (by omega) (by omega) fun first =>
          cons_lt_cons (by omega) (by omega) (by omega)
      · split <;> exact cons_lt_cons (by omega) (by omega) (by omega)
    · have longer : ¬ w ≤ 0x7ff := by omega
      rw [if_neg two, if_neg longer]
      by_cases three : v ≤ 0xffff
      · rw [if_pos three]
        split
        · exact cons_lt_cons (by omega) (by omega) fun first =>
            cons_lt_cons (by omega) (by omega) fun second =>
              cons_lt_cons (by omega) (by omega) (by omega)
        · exact cons_lt_cons (by omega) (by omega) (by omega)
      · have longer : ¬ w ≤ 0xffff := by omega
        rw [if_neg three, if_neg longer]
        exact cons_lt_cons (by omega) (by omega) fun first =>
          cons_lt_cons (by omega) (by omega) fun second =>
            cons_lt_cons (by omega) (by omega) fun third =>
              cons_lt_cons (by omega) (by omega) (by omega)

theorem encode_lt_encode {s t : List Char} (less : s < t) : encode s < encode t := by
  induction less with
  | @nil c t =>
    rw [encode_cons]
    cases bytes : String.utf8EncodeChar c with
    | nil => exact absurd bytes String.utf8EncodeChar_ne_nil
    | cons b bytes => exact List.nil_lt_cons b _
  | rel less =>
    rw [encode_cons, encode_cons]
    exact encodeChar_append_lt less _ _
  | cons _ ih =>
    rw [encode_cons, encode_cons]
    exact List.append_left_lt ih

theorem encode_le_encode {s t : String} (le : (compare s t).isLE) :
    encode s.toList ≤ encode t.toList := by
  rcases Ordering.isLE_iff_eq_lt_or_eq_eq.mp le with less | same
  · have less : s < t := compareOfLessAndEq_eq_lt.mp less
    exact List.le_of_lt (encode_lt_encode less)
  · rw [Std.LawfulEqOrd.eq_of_compare same]
    exact List.le_refl _

end PlainTables.Utf8
