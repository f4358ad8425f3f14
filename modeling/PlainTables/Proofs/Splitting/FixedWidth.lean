import PlainTables.Proofs.Computation
import PlainTables.Proofs.Numeral
import PlainTables.Proofs.Text.Ends
import PlainTables.Splitting.FixedWidth

/-!
# Layouts of fixed width

Values that are laid out in disjoint places of a blank line are the fields of these places again, in the order
in which the places are declared, wherever they lie in the line. It does not matter whether the line keeps the
blanks at its end: what is missing of a field are blanks.
-/

namespace PlainTables

namespace CharRange

/-- The first and the last character of a range are characters of a line, counted from one. -/
structure IsPlace (range : CharRange) : Prop where
  first_pos : 1 ≤ range.first
  first_le_last : range.first ≤ range.last
  last_lt : range.last < UInt64.size

def Apart (range other : CharRange) : Prop :=
  range.last < other.first ∨ other.last < range.first

def width (range : CharRange) : Nat :=
  range.last + 1 - range.first

/-- Writes a value to the start of a range, over what stands there. -/
def overwrite (range : CharRange) (value line : List Char) : List Char :=
  line.take (range.first - 1) ++ value ++ line.drop (range.first - 1 + value.length)

variable {range other : CharRange} {value line : List Char}

theorem Apart.symm (apart : range.Apart other) : other.Apart range :=
  Or.symm apart

theorem IsPlace.pred_add_width (place : range.IsPlace) : range.first - 1 + range.width = range.last := by
  have pos := place.first_pos
  have ordered := place.first_le_last
  unfold width
  omega

theorem length_overwrite (place : range.IsPlace) (fits : value.length ≤ range.width)
    (within : range.last ≤ line.length) : (range.overwrite value line).length = line.length := by
  have ends := place.pred_add_width
  rw [overwrite, List.length_append, List.length_append, List.length_take, List.length_drop]
  omega

theorem getElem?_overwrite {s : List Char} (place : range.IsPlace) (within : range.last ≤ s.length)
    (i : Nat) :
    (range.overwrite value s)[i]? =
      if range.first - 1 ≤ i ∧ i < range.first - 1 + value.length then value[i - (range.first - 1)]?
      else s[i]? := by
  have ends := place.pred_add_width
  have front : (s.take (range.first - 1)).length = range.first - 1 := by
    rw [List.length_take]
    omega
  rw [overwrite, List.append_assoc, List.getElem?_append, front]
  by_cases before : i < range.first - 1
  · rw [if_pos before, if_neg (by omega), List.getElem?_take_of_lt before]
  · rw [if_neg before, List.getElem?_append]
    by_cases inside : i - (range.first - 1) < value.length
    · rw [if_pos inside, if_pos (by omega)]
    · rw [if_neg inside, if_neg (by omega), List.getElem?_drop]
      congr 1
      omega

theorem getElem?_slice (place : range.IsPlace) (s : List Char) (i : Nat) :
    (range.slice s)[i]? = if i < range.width then s[range.first - 1 + i]? else none := by
  have ends := place.pred_add_width
  rw [slice, List.getElem?_drop, List.getElem?_take]
  by_cases inside : i < range.width
  · rw [if_pos inside, if_pos (by omega)]
  · rw [if_neg inside, if_neg (by omega)]

theorem slice_overwrite_of_apart (place : range.IsPlace) (place' : other.IsPlace)
    (apart : range.Apart other) (fits : value.length ≤ other.width)
    (within : other.last ≤ line.length) :
    range.slice (other.overwrite value line) = range.slice line := by
  have ends := place.pred_add_width
  have ends' := place'.pred_add_width
  have pos := place.first_pos
  have pos' := place'.first_pos
  apply List.ext_getElem?
  intro i
  rw [getElem?_slice place, getElem?_slice place]
  by_cases inside : i < range.width
  · have outside : ¬ (other.first - 1 ≤ range.first - 1 + i ∧
        range.first - 1 + i < other.first - 1 + value.length) := by
      rcases apart with before | after <;> omega
    rw [if_pos inside, if_pos inside, getElem?_overwrite place' within, if_neg outside]
  · rw [if_neg inside, if_neg inside]

theorem slice_overwrite_self (place : range.IsPlace) (fits : value.length ≤ range.width)
    (within : range.last ≤ line.length) :
    range.slice (range.overwrite value line) = value ++ (range.slice line).drop value.length := by
  apply List.ext_getElem?
  intro i
  rw [getElem?_slice place, getElem?_overwrite place within, List.getElem?_append,
    List.getElem?_drop, getElem?_slice place]
  by_cases inside : i < value.length
  · rw [if_pos (by omega), if_pos (by omega), if_pos inside, Nat.add_sub_cancel_left]
  · rw [if_neg (c := i < value.length) inside, if_neg (c := _ ∧ _) (by omega),
      Nat.add_sub_cancel' (Nat.le_of_not_lt inside)]

theorem exists_slice_append (range : CharRange) (line cut : List Char) :
    ∃ rest, range.slice (line ++ cut) = range.slice line ++ rest ∧ ∀ c ∈ rest, c ∈ cut := by
  refine ⟨_, by rw [slice, List.take_append, List.drop_append]; rfl, ?_⟩
  intro c mem
  exact List.mem_of_mem_take (List.mem_of_mem_drop mem)

/-- The field is the part of the line from the first to the last character of the range, as far as the
line goes. -/
theorem slice_within (place : range.IsPlace) (line : List Char) :
    ∃ before after, line = before ++ range.slice line ++ after ∧
      before.length = min (range.first - 1) line.length ∧
      before.length + (range.slice line).length = min range.last line.length := by
  have pos := place.first_pos
  have ordered := place.first_le_last
  refine ⟨(line.take range.last).take (range.first - 1), line.drop range.last, ?_, ?_, ?_⟩
  · rw [slice, List.take_append_drop, List.take_append_drop]
  · rw [List.length_take, List.length_take]
    omega
  · rw [slice, List.length_take, List.length_drop, List.length_take]
    omega

theorem slice_blanks (place : range.IsPlace) {size : Nat} (within : range.last ≤ size) :
    range.slice (List.replicate size ' ') = List.replicate range.width ' ' := by
  have ends := place.pred_add_width
  rw [slice, List.take_replicate, List.drop_replicate]
  congr 1
  omega

/-- The ways to write a range: its ends with a hyphen between them, or one number for a single character. -/
inductive Spells : CharRange → List Char → Prop
  | ends (range : CharRange) :
      Spells range (Nat.toDigits 10 range.first ++ '-' :: Nat.toDigits 10 range.last)
  | single (n : Nat) : Spells ⟨n, n⟩ (Nat.toDigits 10 n)

variable {s : List Char}

theorem Spells.mem (spells : range.Spells s) : ∀ c ∈ s, c.isDigit = true ∨ c = '-' := by
  intro c mem
  cases spells with
  | ends =>
    rcases List.mem_append.mp mem with first | rest
    · exact .inl (Numeral.isDigit_of_mem first)
    · rcases List.mem_cons.mp rest with rfl | last
      · exact .inr rfl
      · exact .inl (Numeral.isDigit_of_mem last)
  | single => exact .inl (Numeral.isDigit_of_mem mem)

theorem Spells.ne_nil (spells : range.Spells s) : s ≠ [] := by
  cases spells with
  | ends => exact List.append_ne_nil_of_right_ne_nil _ (List.cons_ne_nil _ _)
  | single => exact Nat.toDigits_ne_nil

theorem Spells.trim_eq (spells : range.Spells s) : Text.trim s = s := by
  apply Text.trim_of_printing
  intro c mem
  rcases spells.mem c mem with digit | rfl
  · exact Numeral.not_isBlank_of_isDigit digit
  · decide

theorem Spells.comma_not_mem (spells : range.Spells s) : ',' ∉ s := by
  intro mem
  rcases spells.mem _ mem with digit | hyphen
  · exact absurd digit (by decide)
  · exact absurd hyphen (by decide)

theorem trim_toDigits (n : Nat) : Text.trim (Nat.toDigits 10 n) = Nat.toDigits 10 n :=
  (Spells.single n).trim_eq

theorem ends_of_spells (spells : range.Spells s) :
    ends s = (Nat.toDigits 10 range.first, Nat.toDigits 10 range.last) := by
  have noHyphen (n : Nat) : ∀ c ∈ Nat.toDigits 10 n, decide (c ≠ '-') = true := by
    intro c mem
    exact decide_eq_true (Numeral.ne_of_isDigit (Numeral.isDigit_of_mem mem) (by decide))
  cases spells with
  | ends =>
    rw [ends, List.takeWhile_append_of_pos (noHyphen _), List.dropWhile_append_of_pos (noHyphen _)]
    simp [trim_toDigits]
  | single n =>
    rw [ends, List.dropWhile_eq_nil_iff.mpr (noHyphen n)]

theorem ofText?_of_spells (place : range.IsPlace) (spells : range.Spells s) :
    ofText? s = some range := by
  have reads {n : Nat} (small : n < UInt64.size) :
      Numeral.readUInt64? (Nat.toDigits 10 n) = some (UInt64.ofNat n) ∧ (UInt64.ofNat n).toNat = n := by
    have same : (UInt64.ofNat n).toNat = n := UInt64.toNat_ofNat_of_lt' small
    have digits := Numeral.readUInt64?_toDigits (UInt64.ofNat n)
    rw [same] at digits
    exact ⟨digits, same⟩
  obtain ⟨pos, ordered, small⟩ := place
  obtain ⟨readFirst, first⟩ := reads (Nat.lt_of_le_of_lt ordered small)
  obtain ⟨readLast, last⟩ := reads small
  have proper : ¬ (UInt64.ofNat range.first = 0 ∨ UInt64.ofNat range.last < UInt64.ofNat range.first) := by
    rw [← UInt64.toNat_inj, UInt64.lt_iff_toNat_lt, first, last]
    simp only [UInt64.toNat_zero]
    omega
  rw [ofText?, ends_of_spells spells]
  simp only [readFirst, readLast, Option.bind_eq_bind, Option.bind_some, if_neg proper, first, last]

theorem isPlace_of_ofText? (read : ofText? s = some range) : range.IsPlace := by
  obtain ⟨first, -, read⟩ := Option.bind_eq_some_iff.mp read
  obtain ⟨last, -, read⟩ := Option.bind_eq_some_iff.mp read
  split at read
  · cases read
  · next proper =>
    cases read
    rw [← UInt64.toNat_inj, UInt64.lt_iff_toNat_lt, UInt64.toNat_zero] at proper
    exact ⟨by dsimp only; omega, by dsimp only; omega, last.toNat_lt⟩

end CharRange

namespace FixedWidths

open CharRange

def layOut : List (CharRange × List Char) → List Char → List Char
  | [], line => line
  | (range, value) :: fields, line => layOut fields (range.overwrite value line)

/-- The value has room in its range, and the range in a line of this size. -/
structure HasRoom (size : Nat) (field : CharRange × List Char) : Prop where
  place : field.1.IsPlace
  fits : field.2.length ≤ field.1.width
  within : field.1.last ≤ size

variable {range : CharRange} {fields : List (CharRange × List Char)} {line : List Char}

theorem slice_layOut_of_apart (place : range.IsPlace)
    (room : ∀ field ∈ fields, HasRoom line.length field)
    (apart : ∀ field ∈ fields, range.Apart field.1) :
    range.slice (layOut fields line) = range.slice line := by
  induction fields generalizing line with
  | nil => rfl
  | cons field fields ih =>
    obtain ⟨other, value⟩ := field
    obtain ⟨first, others⟩ := List.forall_mem_cons.mp room
    obtain ⟨apartFirst, apartOthers⟩ := List.forall_mem_cons.mp apart
    rw [← length_overwrite first.place first.fits first.within] at others
    rw [layOut, ih others apartOthers]
    exact slice_overwrite_of_apart place first.place apartFirst first.fits first.within

theorem slices_layOut (room : ∀ field ∈ fields, HasRoom line.length field)
    (apart : fields.Pairwise fun field other => field.1.Apart other.1) :
    ∀ field ∈ fields,
      field.1.slice (layOut fields line) = field.2 ++ (field.1.slice line).drop field.2.length := by
  induction fields generalizing line with
  | nil => exact List.forall_mem_nil _
  | cons field fields ih =>
    obtain ⟨range, value⟩ := field
    obtain ⟨first, others⟩ := List.forall_mem_cons.mp room
    obtain ⟨apartFirst, apartOthers⟩ := List.pairwise_cons.mp apart
    have room' := others
    rw [← length_overwrite first.place first.fits first.within] at room'
    rw [layOut]
    refine List.forall_mem_cons.mpr ⟨?_, ?_⟩
    · rw [slice_layOut_of_apart first.place room' apartFirst]
      exact slice_overwrite_self first.place first.fits first.within
    · intro field mem
      rw [ih room' apartOthers field mem, slice_overwrite_of_apart (others field mem).place first.place
        (apartFirst field mem).symm first.fits first.within]

/-- The field of a range in a blank line in which values are laid out is its value, up to blanks, also if the
line has lost blanks at its end. -/
theorem trim_slice_layOut {size : Nat} {cut : List Char}
    (room : ∀ field ∈ fields, HasRoom size field)
    (apart : fields.Pairwise fun field other => field.1.Apart other.1)
    (whole : line ++ cut = layOut fields (List.replicate size ' '))
    (blanks : ∀ c ∈ cut, Text.isBlank c = true) :
    ∀ field ∈ fields, Text.trim (field.1.slice line) = Text.trim field.2 := by
  intro field mem
  obtain ⟨rest, longer, inCut⟩ := exists_slice_append field.1 line cut
  have laidOut : field.1.slice (layOut fields (List.replicate size ' ')) = _ :=
    slices_layOut (by rwa [List.length_replicate]) apart field mem
  rw [slice_blanks (room field mem).place (room field mem).within, List.drop_replicate, ← whole,
    longer] at laidOut
  calc Text.trim (field.1.slice line)
      = Text.trim (field.1.slice line ++ rest) :=
        (Text.trim_append_of_blanks _ fun c found => blanks c (inCut c found)).symm
    _ = Text.trim field.2 := by
        rw [laidOut]
        exact Text.trim_append_of_blanks _ fun c found =>
          (List.eq_of_mem_replicate found).symm ▸ Text.isBlank_space

theorem listItems_intercalate {texts : List String} (nonempty : texts ≠ [])
    (spells : ∀ text ∈ texts, ∃ range : CharRange, range.Spells text.toList) :
    Text.listItems (",".intercalate texts) = texts := by
  have lists : ∀ item ∈ texts.map String.toList, ∃ range : CharRange, range.Spells item :=
    List.forall_mem_map.mpr spells
  have noComma (item : List Char) (mem : item ∈ texts.map String.toList) : ',' ∉ item := by
    obtain ⟨_, spelled⟩ := lists item mem
    exact spelled.comma_not_mem
  have trimmed : (texts.map String.toList).map Text.trim = texts.map String.toList := by
    refine (List.map_congr_left fun item mem => ?_).trans (List.map_id _)
    obtain ⟨_, spelled⟩ := lists item mem
    exact spelled.trim_eq
  have present : (texts.map String.toList).filter (fun item => !item.isEmpty) =
      texts.map String.toList := by
    refine List.filter_eq_self.mpr fun item mem => ?_
    obtain ⟨_, spelled⟩ := lists item mem
    simpa using spelled.ne_nil
  have joined : (",".intercalate texts).toList = [','].intercalate (texts.map String.toList) :=
    String.toList_intercalate
  rw [Text.listItems, joined, Text.splitOn_intercalate (by simpa using nonempty) noComma, trimmed,
    present, List.map_map]
  exact (List.map_congr_left fun text _ => String.ofList_toList).trans (List.map_id _)

theorem parse_intercalate {ranges : List CharRange} {texts : List String} (nonempty : ranges ≠ [])
    (places : ∀ range ∈ ranges, range.IsPlace)
    (spelled : List.Forall₂ (fun range text => range.Spells text.toList) ranges texts) :
    parse (",".intercalate texts) = .ok ⟨ranges⟩ := by
  have some : texts ≠ [] := by
    rintro rfl
    exact nonempty (List.forall₂_nil_right_iff.mp spelled)
  have items := listItems_intercalate some
    (forall_mem_of_forall₂ spelled fun range _ spells => ⟨range, spells⟩)
  refine bind_eq_ok_iff.mpr ⟨ranges, ?_, ?_⟩
  · rw [items]
    refine mapM_eq_ok_iff.mpr ?_
    clear items some nonempty
    induction spelled with
    | nil => exact .nil
    | @cons range text ranges texts spells _ ih =>
      obtain ⟨place, places⟩ := List.forall_mem_cons.mp places
      refine .cons ?_ (ih places)
      rw [ofText?_of_spells place spells]
  · rw [if_neg (by simpa using nonempty)]

theorem places_of_parse {list : String} {w : FixedWidths} (accepted : parse list = .ok w) :
    ∀ range ∈ w.ranges, range.IsPlace := by
  obtain ⟨ranges, read, accepted⟩ := bind_eq_ok_iff.mp accepted
  split at accepted
  · cases accepted
  · cases accepted
    refine forall_mem_of_forall₂ (mapM_eq_ok_iff.mp read) ?_
    intro item range read
    split at read
    · next known =>
      cases read
      exact isPlace_of_ofText? known
    · cases read

/-- The line holds the values at the starts of their ranges and is blank elsewhere. Blanks at its end may have
been cut off. -/
structure LaidOut (ranges : List CharRange) (values : List String) (line : String) : Prop where
  fit : List.Forall₂ (fun range value => value.length ≤ range.width) ranges values
  whole : ∃ size cut, (∀ range ∈ ranges, range.last ≤ size) ∧ (∀ c ∈ cut, Text.isBlank c = true) ∧
    line.toList ++ cut = layOut (ranges.zip (values.map String.toList)) (List.replicate size ' ')

variable {ranges : List CharRange} {values : List String}

theorem pairwise_zip {α β : Type} {R : α → α → Prop} {as : List α} (apart : as.Pairwise R) (bs : List β) :
    (as.zip bs).Pairwise fun field other => R field.1 other.1 := by
  induction apart generalizing bs with
  | nil => exact .nil
  | cons first _ ih =>
    cases bs with
    | nil => exact .nil
    | cons b bs =>
      refine .cons ?_ (ih bs)
      intro other mem
      exact first other.1 (List.of_mem_zip mem).1

/-- The trimmed fields of such a line are the trimmed values, in the order of the ranges. -/
theorem trimmed_slice (places : ∀ range ∈ ranges, range.IsPlace) (apart : ranges.Pairwise Apart)
    {line : String} (laidOut : LaidOut ranges values line) :
    ranges.map (fun range => Text.trim (range.slice line.toList)) =
      values.map fun value => Text.trim value.toList := by
  obtain ⟨fit, size, cut, within, blanks, whole⟩ := laidOut
  have room : ∀ field ∈ ranges.zip (values.map String.toList), HasRoom size field := by
    intro field mem
    have known := (List.of_mem_zip mem).1
    rw [List.zip_map_right] at mem
    obtain ⟨⟨range, value⟩, inside, rfl⟩ := List.mem_map.mp mem
    exact ⟨places _ known, List.forall₂_zip fit inside, within _ known⟩
  have count : ranges.length = (values.map String.toList).length := by
    rw [List.length_map]
    exact fit.length_eq
  calc ranges.map (fun range => Text.trim (range.slice line.toList))
      = ((ranges.zip (values.map String.toList)).map Prod.fst).map
          fun range => Text.trim (range.slice line.toList) := by rw [List.map_fst_zip count.le]
    _ = ((ranges.zip (values.map String.toList)).map Prod.snd).map Text.trim := by
        rw [List.map_map, List.map_map]
        exact List.map_congr_left (trim_slice_layOut room (pairwise_zip apart _) whole blanks)
    _ = values.map fun value => Text.trim value.toList := by
        rw [List.map_snd_zip count.ge, List.map_map]
        rfl

/-- A list of disjoint places is read as these places, and of a line in which values are laid out the fields are
the values. The places in every list that is accepted start at a character and do not end before it, so the
fields of any line lie within the line. -/
theorem reads_layout :
    (∀ (ranges : List CharRange) (texts : List String), ranges ≠ [] →
      (∀ range ∈ ranges, range.IsPlace) → ranges.Pairwise Apart →
      List.Forall₂ (fun range text => range.Spells text.toList) ranges texts →
        parse (",".intercalate texts) = .ok ⟨ranges⟩ ∧
        ∀ (values : List String) (line : String), LaidOut ranges values line → ∀ trim : Bool,
          ((FixedWidths.mk ranges).slice line trim).map Text.trimmed = values.map Text.trimmed) ∧
    ∀ (list : String) (w : FixedWidths), parse list = .ok w → ∀ (line : String) (trim : Bool),
      (w.slice line trim).length = w.ranges.length ∧
      ∀ range ∈ w.ranges, 1 ≤ range.first ∧ range.first ≤ range.last ∧
        ∃ before after, line.toList = before ++ range.slice line.toList ++ after ∧
          before.length = min (range.first - 1) line.length ∧
          before.length + (range.slice line.toList).length = min range.last line.length := by
  refine ⟨?_, ?_⟩
  · intro ranges texts nonempty places apart spelled
    refine ⟨parse_intercalate nonempty places spelled, ?_⟩
    intro values line laidOut trim
    have fields := congrArg (List.map String.ofList) (trimmed_slice places apart laidOut)
    rw [List.map_map, List.map_map] at fields
    refine Eq.trans ?_ fields
    rw [slice, List.map_map]
    refine List.map_congr_left fun range _ => ?_
    cases trim with
    | false => simp [Text.trimmed]
    | true => simp [Text.trimmed, Text.trim_trim]
  · intro list w accepted line trim
    refine ⟨List.length_map _, ?_⟩
    intro range mem
    have place := places_of_parse accepted range mem
    exact ⟨place.first_pos, place.first_le_last, slice_within place line.toList⟩

/-- Three ranges out of order, in a line without the blank at its end and in one that is too short. -/
theorem reads_layout_out_of_order :
    parse "5-6,1-3,4" = .ok ⟨[⟨5, 6⟩, ⟨1, 3⟩, ⟨4, 4⟩]⟩ ∧
    (slice ⟨[⟨5, 6⟩, ⟨1, 3⟩, ⟨4, 4⟩]⟩ "ab dE" false).map Text.trimmed = ["E", "ab", "d"] ∧
    (slice ⟨[⟨5, 6⟩, ⟨1, 3⟩, ⟨4, 4⟩]⟩ "ab" true).length = 3 := by
  have accepted : parse "5-6,1-3,4" = .ok ⟨[⟨5, 6⟩, ⟨1, 3⟩, ⟨4, 4⟩]⟩ ∧ _ :=
    reads_layout.1 [⟨5, 6⟩, ⟨1, 3⟩, ⟨4, 4⟩] ["5-6", "1-3", "4"] (List.cons_ne_nil _ _)
      (by
        simp only [List.forall_mem_cons]
        exact ⟨⟨by decide, by decide, by decide⟩, ⟨by decide, by decide, by decide⟩,
          ⟨by decide, by decide, by decide⟩, List.forall_mem_nil _⟩)
      (by simp [Apart])
      (.cons (.ends ⟨5, 6⟩) (.cons (.ends ⟨1, 3⟩) (.cons (.single 4) .nil)))
  have laidOut : LaidOut [⟨5, 6⟩, ⟨1, 3⟩, ⟨4, 4⟩] ["E", "ab", "d"] "ab dE" :=
    ⟨.cons (by decide) (.cons (by decide) (.cons (by decide) .nil)),
      6, [' '], by decide, List.forall_mem_singleton.mpr Text.isBlank_space, by decide⟩
  exact ⟨accepted.1, accepted.2 _ _ laidOut false, (reads_layout.2 _ _ accepted.1 "ab" true).1⟩

end FixedWidths

end PlainTables
