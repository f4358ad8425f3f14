import PlainTables.NamePattern.CaseVariant
import PlainTables.NamePattern.Category

/-!
# Sets of characters

What a class of a pattern stands for is found from its parts: unions, complements and the operations between
classes have the members that they should have, and so has a class in which case does not count. Ranges that are in
order and apart from each other are so again after every operation.
-/

namespace PlainTables

namespace CharSet

variable {s t : CharSet} {r : Nat × Nat} {rs : List (Nat × Nat)} {n : Nat}

def Covers (rs : List (Nat × Nat)) (n : Nat) : Prop :=
  ∃ r ∈ rs, r.1 ≤ n ∧ n ≤ r.2

def Sorted (rs : List (Nat × Nat)) : Prop :=
  rs.Pairwise fun r s => r.1 ≤ s.1

/-- The ranges are in increasing order and do not touch each other, and none of them is empty. -/
def Apart (rs : List (Nat × Nat)) : Prop :=
  rs.Pairwise (fun r s => r.2 + 1 < s.1) ∧ ∀ r ∈ rs, r.1 ≤ r.2

theorem Apart.sorted (apart : Apart rs) : Sorted rs := by
  obtain ⟨gaps, nonempty⟩ := apart
  apply gaps.imp_of_mem
  intro r s mem _ gap
  have := nonempty r mem
  omega

theorem contains_iff {c : Char} : s.contains c = true ↔ Covers s.ranges c.toNat := by
  simp [contains, Covers]

theorem covers_cons : Covers (r :: rs) n ↔ (r.1 ≤ n ∧ n ≤ r.2) ∨ Covers rs n := by
  simp [Covers]

theorem sorted_widened {r' : Nat × Nat} (sorted : Sorted (r :: r' :: rs)) :
    Sorted ((r.1, max r.2 r'.2) :: rs) := by
  obtain ⟨least, later⟩ := List.pairwise_cons.mp sorted
  apply List.pairwise_cons.mpr
  exact ⟨fun x mem => least x (List.mem_cons_of_mem r' mem), (List.pairwise_cons.mp later).2⟩

theorem covers_join (sorted : Sorted (r :: rs)) : Covers (join r rs) n ↔ Covers (r :: rs) n := by
  induction rs generalizing r with
  | nil => rfl
  | cons s rs ih =>
    obtain ⟨least, later⟩ := List.pairwise_cons.mp sorted
    have next : r.1 ≤ s.1 := least s List.mem_cons_self
    rw [join]
    split
    · next touching =>
      have both : (r.1 ≤ n ∧ n ≤ max r.2 s.2) ↔ (r.1 ≤ n ∧ n ≤ r.2) ∨ (s.1 ≤ n ∧ n ≤ s.2) := by omega
      rw [ih (sorted_widened sorted), covers_cons, covers_cons, covers_cons, ← or_assoc, both]
    · rw [covers_cons, ih later, ← covers_cons]

theorem sorted_join (sorted : Sorted (r :: rs)) : Sorted (join r rs) ∧ ∀ s ∈ join r rs, r.1 ≤ s.1 := by
  induction rs generalizing r with
  | nil => exact ⟨List.pairwise_singleton .., by simp [join]⟩
  | cons s rs ih =>
    obtain ⟨least, later⟩ := List.pairwise_cons.mp sorted
    have next : r.1 ≤ s.1 := least s List.mem_cons_self
    rw [join]
    split
    · exact ih (sorted_widened sorted)
    · obtain ⟨joined, above⟩ := ih later
      have above : ∀ x ∈ join s rs, r.1 ≤ x.1 := fun x mem => Nat.le_trans next (above x mem)
      refine ⟨List.pairwise_cons.mpr ⟨above, joined⟩, ?_⟩
      intro x mem
      rcases List.mem_cons.mp mem with rfl | mem
      · exact Nat.le_refl _
      · exact above x mem

theorem apart_join (sorted : Sorted (r :: rs)) (nonempty : ∀ s ∈ r :: rs, s.1 ≤ s.2) : Apart (join r rs) := by
  induction rs generalizing r with
  | nil => exact ⟨List.pairwise_singleton .., nonempty⟩
  | cons s rs ih =>
    obtain ⟨first, filled⟩ := List.forall_mem_cons.mp nonempty
    obtain ⟨_, later⟩ := List.pairwise_cons.mp sorted
    rw [join]
    split
    · have wide : r.1 ≤ max r.2 s.2 := Nat.le_trans first (Nat.le_max_left _ _)
      apply ih (sorted_widened sorted)
      exact List.forall_mem_cons.mpr ⟨wide, (List.forall_mem_cons.mp filled).2⟩
    · next apart =>
      obtain ⟨gaps, parts⟩ := ih later filled
      refine ⟨List.pairwise_cons.mpr ⟨?_, gaps⟩, List.forall_mem_cons.mpr ⟨first, parts⟩⟩
      intro x mem
      have := (sorted_join later).2 x mem
      omega

theorem covers_joined (sorted : Sorted rs) : Covers (joined rs) n ↔ Covers rs n := by
  cases rs with
  | nil => rfl
  | cons r rs => exact covers_join sorted

theorem sorted_joined (sorted : Sorted rs) : Sorted (joined rs) := by
  cases rs with
  | nil => exact .nil
  | cons r rs => exact (sorted_join sorted).1

theorem apart_joined (sorted : Sorted rs) (nonempty : ∀ r ∈ rs, r.1 ≤ r.2) : Apart (joined rs) := by
  cases rs with
  | nil => exact ⟨.nil, nonempty⟩
  | cons r rs => exact apart_join sorted nonempty

theorem sorted_merge {rs' : List (Nat × Nat)} (sorted : Sorted rs) (sorted' : Sorted rs') :
    Sorted (rs.merge rs' fun r s => r.1 ≤ s.1) := by
  have merged :=
    @List.pairwise_merge _ (fun r s : Nat × Nat => decide (r.1 ≤ s.1)) (by grind) (by grind) rs rs'
  simp only [decide_eq_true_eq] at merged
  exact merged sorted sorted'

theorem sorted_mergeSort (rs : List (Nat × Nat)) : Sorted (rs.mergeSort fun r s => r.1 ≤ s.1) := by
  have sorted :=
    @List.pairwise_mergeSort _ (fun r s : Nat × Nat => decide (r.1 ≤ s.1)) (by grind) (by grind) rs
  simp only [decide_eq_true_eq] at sorted
  exact sorted

theorem mem_charParts {r p : Nat × Nat} :
    p ∈ charParts r ↔ (p = (r.1, min r.2 0xd7ff) ∨ p = (max r.1 0xe000, r.2)) ∧ p.1 ≤ p.2 := by
  simp [charParts]

/-- Nothing is lost of a range but the code points that are no characters. -/
theorem covers_charParts (c : Char) : Covers (rs.flatMap charParts) c.toNat ↔ Covers rs c.toNat := by
  have valid : c.toNat < 0xd800 ∨ 0xdfff < c.toNat ∧ c.toNat < 0x110000 := c.valid
  constructor
  · rintro ⟨p, mem, within⟩
    obtain ⟨r, known, part⟩ := List.mem_flatMap.mp mem
    refine ⟨r, known, ?_⟩
    obtain ⟨rfl | rfl, _⟩ := mem_charParts.mp part <;> simp only at within <;> omega
  · rintro ⟨r, mem, within⟩
    by_cases low : c.toNat < 0xd800
    · have filled : r.1 ≤ min r.2 0xd7ff := by omega
      have part := mem_charParts.mpr ⟨.inl rfl, filled⟩
      exact ⟨_, List.mem_flatMap.mpr ⟨r, mem, part⟩, within.1, by omega⟩
    · have filled : max r.1 0xe000 ≤ r.2 := by omega
      have part := mem_charParts.mpr ⟨.inr rfl, filled⟩
      exact ⟨_, List.mem_flatMap.mpr ⟨r, mem, part⟩, by omega, within.2⟩

theorem nonempty_charParts {p : Nat × Nat} (mem : p ∈ rs.flatMap charParts) : p.1 ≤ p.2 := by
  obtain ⟨r, _, part⟩ := List.mem_flatMap.mp mem
  exact (mem_charParts.mp part).2

theorem apart_charParts (gaps : rs.Pairwise fun r s => r.2 + 1 < s.1) : Apart (rs.flatMap charParts) := by
  refine ⟨List.pairwise_flatMap.mpr ⟨?_, ?_⟩, fun p mem => nonempty_charParts mem⟩
  · intro r _
    apply List.Pairwise.filter
    simp
    omega
  · apply gaps.imp
    intro r s gap p part q part'
    obtain ⟨rfl | rfl, _⟩ := mem_charParts.mp part <;> obtain ⟨rfl | rfl, _⟩ := mem_charParts.mp part' <;>
      simp only at * <;> omega

theorem contains_ofRanges (rs : List (Nat × Nat)) (c : Char) :
    (ofRanges rs).contains c = true ↔ Covers rs c.toNat := by
  have same : Covers ((rs.flatMap charParts).mergeSort fun r s => r.1 ≤ s.1) c.toNat ↔
      Covers (rs.flatMap charParts) c.toNat := by
    simp only [Covers, List.mem_mergeSort]
  rw [contains_iff, ofRanges, covers_joined (sorted_mergeSort _), same, covers_charParts]

theorem apart_ofRanges (rs : List (Nat × Nat)) : Apart (ofRanges rs).ranges := by
  apply apart_joined (sorted_mergeSort _)
  intro p mem
  exact nonempty_charParts (List.mem_mergeSort.mp mem)

theorem contains_union (sorted : Sorted s.ranges) (sorted' : Sorted t.ranges) (c : Char) :
    (s.union t).contains c = (s.contains c || t.contains c) := by
  rw [Bool.eq_iff_iff, Bool.or_eq_true, contains_iff, contains_iff, contains_iff, union,
    covers_joined (sorted_merge sorted sorted')]
  simp only [Covers, List.mem_merge, or_and_right, exists_or]

theorem apart_union (apart : Apart s.ranges) (apart' : Apart t.ranges) : Apart (s.union t).ranges := by
  apply apart_joined (sorted_merge apart.sorted apart'.sorted)
  intro r mem
  rcases List.mem_merge.mp mem with mem | mem
  · exact apart.2 r mem
  · exact apart'.2 r mem

/-- The gaps between ranges, which begin behind the start, are what the ranges leave out. -/
theorem covers_gaps {start : Nat} (apart : Apart rs) (above : ∀ r ∈ rs, start < r.1) (char : n ≤ 0x10ffff) :
    Covers (gaps start rs) n ↔ start ≤ n ∧ ¬ Covers rs n := by
  induction rs generalizing start with
  | nil => simp [gaps, Covers, char]
  | cons r rs ih =>
    obtain ⟨between, later⟩ := List.pairwise_cons.mp apart.1
    have first : start < r.1 := above r List.mem_cons_self
    have filled : r.1 ≤ r.2 := apart.2 r List.mem_cons_self
    have rest : Covers (gaps (r.2 + 1) rs) n ↔ r.2 + 1 ≤ n ∧ ¬ Covers rs n :=
      ih ⟨later, fun s mem => apart.2 s (List.mem_cons_of_mem r mem)⟩ between
    have behind : Covers rs n → r.2 + 1 < n := by
      rintro ⟨s, mem, low, _⟩
      exact Nat.lt_of_lt_of_le (between s mem) low
    rw [gaps, covers_cons, covers_cons, rest]
    by_cases covered : Covers rs n
    · have := behind covered
      have notBefore : ¬ (start ≤ n ∧ n ≤ r.1 - 1) := by omega
      simp [covered, notBefore]
    · simp only [covered, not_false_eq_true, and_true, or_false]
      omega

theorem apart_gaps {start : Nat} (apart : Apart rs) (above : ∀ r ∈ rs, start < r.1) :
    (gaps start rs).Pairwise (fun r s => r.2 + 1 < s.1) ∧ ∀ p ∈ gaps start rs, start ≤ p.1 := by
  induction rs generalizing start with
  | nil => simp [gaps]
  | cons r rs ih =>
    obtain ⟨between, later⟩ := List.pairwise_cons.mp apart.1
    have first : start < r.1 := above r List.mem_cons_self
    have filled : r.1 ≤ r.2 := apart.2 r List.mem_cons_self
    obtain ⟨gapped, least⟩ : (gaps (r.2 + 1) rs).Pairwise (fun r s => r.2 + 1 < s.1) ∧
        ∀ p ∈ gaps (r.2 + 1) rs, r.2 + 1 ≤ p.1 :=
      ih ⟨later, fun s mem => apart.2 s (List.mem_cons_of_mem r mem)⟩ between
    rw [gaps]
    constructor
    · apply List.pairwise_cons.mpr ⟨?_, gapped⟩
      intro p mem
      have := least p mem
      simp only
      omega
    · intro p mem
      rcases List.mem_cons.mp mem with rfl | mem
      · exact Nat.le_refl _
      · have := least p mem
        omega

/-- A complement is made of the gaps between the ranges. -/
theorem exists_gaps (apart : Apart s.ranges) :
    ∃ between, s.complement = ⟨between.flatMap charParts⟩ ∧ between.Pairwise (fun r s => r.2 + 1 < s.1) ∧
      ∀ n ≤ 0x10ffff, Covers between n ↔ ¬ Covers s.ranges n := by
  obtain ⟨rs⟩ := s
  change Apart rs at apart
  cases rs with
  | nil => exact ⟨gaps 0 [], rfl, List.pairwise_singleton .., fun n char => by simp [gaps, Covers, char]⟩
  | cons r rs =>
    obtain ⟨between, later⟩ := List.pairwise_cons.mp apart.1
    obtain ⟨first, last⟩ := r
    cases first with
    | zero =>
      have apart : Apart rs := ⟨later, fun s mem => apart.2 s (List.mem_cons_of_mem _ mem)⟩
      refine ⟨gaps (last + 1) rs, rfl, (apart_gaps apart between).1, ?_⟩
      intro n char
      have left : last + 1 ≤ n ↔ ¬ (0 ≤ n ∧ n ≤ last) := by omega
      rw [covers_gaps apart between char, covers_cons, left, not_or]
    | succ first =>
      have above : ∀ s ∈ (first + 1, last) :: rs, 0 < s.1 := by
        intro s mem
        rcases List.mem_cons.mp mem with rfl | mem
        · exact Nat.succ_pos first
        · exact Nat.zero_lt_of_lt (between s mem)
      refine ⟨gaps 0 ((first + 1, last) :: rs), rfl, (apart_gaps apart above).1, ?_⟩
      intro n char
      rw [covers_gaps apart above char]
      exact and_iff_right (Nat.zero_le n)

theorem contains_complement (apart : Apart s.ranges) (c : Char) : s.complement.contains c = !s.contains c := by
  obtain ⟨between, same, _, covers⟩ := exists_gaps apart
  have valid : c.toNat < 0xd800 ∨ 0xdfff < c.toNat ∧ c.toNat < 0x110000 := c.valid
  rw [Bool.eq_iff_iff, Bool.not_eq_true', ← Bool.not_eq_true, contains_iff, contains_iff, same, covers_charParts]
  apply covers
  omega

theorem apart_complement (apart : Apart s.ranges) : Apart s.complement.ranges := by
  obtain ⟨between, same, gapped, _⟩ := exists_gaps apart
  rw [same]
  exact apart_charParts gapped

theorem contains_intersection (apart : Apart s.ranges) (apart' : Apart t.ranges) (c : Char) :
    (s.intersection t).contains c = (s.contains c && t.contains c) := by
  have left := apart_complement apart
  have right := apart_complement apart'
  rw [intersection, contains_complement (apart_union left right), contains_union left.sorted right.sorted,
    contains_complement apart, contains_complement apart', Bool.not_or, Bool.not_not, Bool.not_not]

theorem apart_intersection (apart : Apart s.ranges) (apart' : Apart t.ranges) : Apart (s.intersection t).ranges :=
  apart_complement (apart_union (apart_complement apart) (apart_complement apart'))

theorem contains_difference (apart : Apart s.ranges) (apart' : Apart t.ranges) (c : Char) :
    (s.difference t).contains c = (s.contains c && !t.contains c) := by
  rw [difference, contains_intersection apart (apart_complement apart'), contains_complement apart']

theorem apart_difference (apart : Apart s.ranges) (apart' : Apart t.ranges) : Apart (s.difference t).ranges :=
  apart_intersection apart (apart_complement apart')

theorem contains_symmetricDifference (apart : Apart s.ranges) (apart' : Apart t.ranges) (c : Char) :
    (s.symmetricDifference t).contains c = (s.contains c != t.contains c) := by
  have left := apart_difference apart apart'
  have right := apart_difference apart' apart
  rw [symmetricDifference, contains_union left.sorted right.sorted, contains_difference apart apart',
    contains_difference apart' apart]
  cases s.contains c <;> cases t.contains c <;> rfl

theorem sorted_union (sorted : Sorted s.ranges) (sorted' : Sorted t.ranges) : Sorted (s.union t).ranges :=
  sorted_joined (sorted_merge sorted sorted')

theorem contains_unionOf {sets : List CharSet} (sorted : ∀ s ∈ sets, Sorted s.ranges) (c : Char) :
    (unionOf sets).contains c = sets.any (·.contains c) := by
  have folded : ∀ acc, Sorted acc.ranges →
      (sets.foldl union acc).contains c = (acc.contains c || sets.any (·.contains c)) := by
    induction sets with
    | nil => simp
    | cons s sets ih =>
      intro acc first
      obtain ⟨next, later⟩ := List.forall_mem_cons.mp sorted
      rw [List.foldl_cons, ih later _ (sorted_union first next), contains_union first next, List.any_cons,
        Bool.or_assoc]
  exact folded nothing .nil

theorem sorted_rangesFrom (start : Nat) (numbers : List Nat) :
    Sorted (rangesFrom start numbers) ∧ ∀ r ∈ rangesFrom start numbers, start ≤ r.1 := by
  fun_induction rangesFrom start numbers with
  | case1 start skipped length rest first ih =>
    constructor
    · apply List.pairwise_cons.mpr ⟨?_, ih.1⟩
      intro r mem
      have := ih.2 r mem
      simp only
      omega
    · intro r mem
      rcases List.mem_cons.mp mem with rfl | mem
      · exact Nat.le_add_right _ _
      · have := ih.2 r mem
        omega
  | case2 => exact ⟨.nil, by simp⟩

theorem sorted_ofTable (table : String) : Sorted (ofTable table).ranges :=
  (sorted_rangesFrom 0 _).1

theorem holds_iff {run : Text.CaseRun} {m : Nat} :
    run.holds m = true ↔ (run.first ≤ m ∧ m ≤ run.last) ∧ (m - run.first) % run.step = 0 := by
  simp only [Text.CaseRun.holds, Bool.and_eq_true, decide_eq_true_eq]

theorem covers_singles {numbers : List Nat} (shift : Nat → Nat) :
    Covers (numbers.map fun i => (shift i, shift i)) n ↔ ∃ i ∈ numbers, n = shift i := by
  constructor
  · rintro ⟨r, mem, within⟩
    obtain ⟨i, known, rfl⟩ := List.mem_map.mp mem
    exact ⟨i, known, Nat.le_antisymm within.2 within.1⟩
  · rintro ⟨i, known, rfl⟩
    exact ⟨_, List.mem_map.mpr ⟨i, known, rfl⟩, Nat.le_refl _, Nat.le_refl _⟩

/-- A range that is shifted consists of its shifted numbers. Those below zero are cut off. -/
theorem covers_shifted {low high : Nat} {shift : Int} (filled : low ≤ high) :
    Covers [(((low : Int) + shift).toNat, ((high : Int) + shift).toNat)] n ↔
      ∃ m : Nat, (low ≤ m ∧ m ≤ high) ∧ n = ((m : Int) + shift).toNat := by
  simp only [Covers, List.mem_singleton, exists_eq_left]
  constructor
  · intro within
    by_cases below : (high : Int) + shift < 0
    · exact ⟨high, ⟨filled, Nat.le_refl _⟩, by omega⟩
    · exact ⟨((n : Int) - shift).toNat, by omega, by omega⟩
  · rintro ⟨m, within, rfl⟩
    omega

/-- A run leads to a range, or to single characters if it leaves some out. -/
theorem covers_variantsIn {run : Text.CaseRun} :
    Covers (variantsIn run r) n ↔
      ∃ m, (r.1 ≤ m ∧ m ≤ r.2) ∧ run.holds m = true ∧ n = ((m : Int) + run.shift).toNat := by
  rw [variantsIn]
  simp only
  generalize low_eq : max run.first r.1 = low
  generalize high_eq : min run.last r.2 = high
  split
  · constructor
    · rintro ⟨_, mem, _⟩
      cases mem
    · rintro ⟨m, within, holds, _⟩
      have := holds_iff.mp holds
      omega
  · next filled =>
    have filled := Nat.le_of_not_lt filled
    split
    · next single =>
      rw [covers_shifted filled]
      apply exists_congr
      intro m
      rw [holds_iff, single, Nat.mod_one, and_iff_left rfl, ← and_assoc]
      apply and_congr_left'
      omega
    · rw [covers_singles fun i => (((low + i : Nat) : Int) + run.shift).toNat]
      simp only [List.mem_filter, List.mem_range]
      constructor
      · rintro ⟨i, ⟨below, holds⟩, same⟩
        exact ⟨low + i, by omega, holds, same⟩
      · rintro ⟨m, within, holds, same⟩
        have inside := holds_iff.mp holds
        obtain ⟨i, rfl⟩ : ∃ i, m = low + i := Nat.exists_eq_add_of_le (by omega)
        exact ⟨i, ⟨by omega, holds⟩, same⟩

/-- The members of a set and the characters to which the runs lead from them. -/
theorem contains_withVariants (sorted : Sorted s.ranges) (runs : List Text.CaseRun) (c : Char) :
    (withVariants runs s).contains c = true ↔
      s.contains c = true ∨ ∃ run ∈ runs, ∃ n, Covers s.ranges n ∧ run.holds n = true ∧
        c.toNat = ((n : Int) + run.shift).toNat := by
  rw [withVariants, contains_union sorted (apart_ofRanges _).sorted, Bool.or_eq_true, contains_ofRanges]
  apply or_congr_right
  constructor
  · rintro ⟨p, mem, within⟩
    obtain ⟨run, known, mem⟩ := List.mem_flatMap.mp mem
    obtain ⟨r, member, mem⟩ := List.mem_flatMap.mp mem
    obtain ⟨m, inside, holds, same⟩ := covers_variantsIn.mp ⟨p, mem, within⟩
    exact ⟨run, known, m, ⟨r, member, inside⟩, holds, same⟩
  · rintro ⟨run, known, m, ⟨r, member, inside⟩, holds, same⟩
    obtain ⟨p, mem, within⟩ := covers_variantsIn.mpr ⟨m, inside, holds, same⟩
    exact ⟨p, List.mem_flatMap.mpr ⟨run, known, List.mem_flatMap.mpr ⟨r, member, mem⟩⟩, within⟩

end CharSet

end PlainTables
