import Mathlib.Data.List.Induction
import Mathlib.Data.List.TakeWhile
import PlainTables.Text.Characters

/-!
# Ends of texts

What trimming does to texts that are put together: a blank at the end is dropped, and a text without
blanks at its ends is kept. Inside quotes a quote is written twice, so that a single one ends the text.
-/

namespace PlainTables.Text

theorem trimLeft_of_blanks {s : List Char} (blanks : ∀ c ∈ s, isBlank c = true) : trimLeft s = [] :=
  List.dropWhile_eq_nil_iff.mpr blanks

theorem trimLeft_append {s : List Char} (t : List Char) {c : Char} (mem : c ∈ s)
    (printing : isBlank c = false) : trimLeft (s ++ t) = trimLeft s ++ t := by
  have stops : (s.dropWhile isBlank).isEmpty = false := by
    rw [List.isEmpty_eq_false_iff]
    intro blanks
    have blank := List.dropWhile_eq_nil_iff.mp blanks c mem
    rw [printing] at blank
    cases blank
  unfold trimLeft
  rw [List.dropWhile_append, stops]
  rfl

theorem trimRight_concat {c : Char} (s : List Char) (blank : isBlank c = true) :
    trimRight (s ++ [c]) = trimRight s := by
  simp only [trimRight, List.reverse_append, List.reverse_singleton, List.singleton_append,
    List.dropWhile_cons, blank, if_true]

theorem trim_concat {c : Char} (s : List Char) (blank : isBlank c = true) :
    trim (s ++ [c]) = trim s := by
  unfold trim
  by_cases printing : ∃ d ∈ s, isBlank d = false
  · obtain ⟨d, mem, notBlank⟩ := printing
    rw [trimLeft_append [c] mem notBlank, trimRight_concat _ blank]
  · have blanks : ∀ d ∈ s, isBlank d = true := by simpa using printing
    have blanks' : ∀ d ∈ s ++ [c], isBlank d = true := by
      intro d mem
      rcases List.mem_append.mp mem with inside | last
      · exact blanks d inside
      · rw [List.mem_singleton.mp last]
        exact blank
    rw [trimLeft_of_blanks blanks, trimLeft_of_blanks blanks']

theorem trim_append_of_blanks (s : List Char) {t : List Char} (blanks : ∀ c ∈ t, isBlank c = true) :
    trim (s ++ t) = trim s := by
  induction t using List.reverseRecOn with
  | nil => rw [List.append_nil]
  | append_singleton t c ih =>
    have inFront (d : Char) (mem : d ∈ t) : isBlank d = true :=
      blanks d (List.mem_append_left [c] mem)
    have last : isBlank c = true := blanks c (List.mem_append_right t (List.mem_singleton_self c))
    rw [← List.append_assoc, trim_concat _ last, ih inFront]

theorem trim_append_left {s : List Char} (blanks : ∀ c ∈ s, isBlank c = true) (t : List Char) :
    trim (s ++ t) = trim t := by
  rw [trim, trimLeft, List.dropWhile_append_of_pos blanks]
  rfl

theorem trim_trim (s : List Char) : trim (trim s) = trim s := by
  have leading : ∀ c ∈ s.takeWhile isBlank, isBlank c = true := fun c => List.mem_takeWhile_imp
  have trailing : ∀ c ∈ ((trimLeft s).reverse.takeWhile isBlank).reverse, isBlank c = true := by
    intro c mem
    exact List.mem_takeWhile_imp (List.mem_reverse.mp mem)
  have right : trim s ++ ((trimLeft s).reverse.takeWhile isBlank).reverse = trimLeft s := by
    rw [trim, trimRight, ← List.reverse_append, List.takeWhile_append_dropWhile, List.reverse_reverse]
  have left : s.takeWhile isBlank ++ trimLeft s = s := List.takeWhile_append_dropWhile
  calc trim (trim s) = trim (trimLeft s) := by
        rw [← trim_append_of_blanks (trim s) trailing, right]
    _ = trim s := by rw [← trim_append_left leading (trimLeft s), left]

theorem dropWhile_of_head? {p : Char → Bool} {s : List Char} (first : ∀ c ∈ s.head?, p c = false) :
    s.dropWhile p = s := by
  cases s with
  | nil => rfl
  | cons c s =>
    have kept := first c rfl
    rw [List.dropWhile_cons, kept]
    rfl

theorem trim_of_ends {s : List Char} (first : ∀ c ∈ s.head?, isBlank c = false)
    (last : ∀ c ∈ s.getLast?, isBlank c = false) : trim s = s := by
  have back : ∀ c ∈ s.reverse.head?, isBlank c = false := by
    rw [List.head?_reverse]
    exact last
  rw [trim, trimLeft, dropWhile_of_head? first, trimRight, dropWhile_of_head? back,
    List.reverse_reverse]

theorem trim_of_printing {s : List Char} (printing : ∀ c ∈ s, isBlank c = false) : trim s = s :=
  trim_of_ends (fun c first => printing c (List.mem_of_mem_head? first))
    (fun c last => printing c (List.mem_of_mem_getLast? last))

variable {q : Char}

def doubled (q : Char) (text : List Char) : List Char :=
  text.flatMap fun c => if c = q then [q, q] else [c]

theorem doubled_cons (c : Char) (text : List Char) :
    doubled q (c :: text) = (if c = q then [q, q] else [c]) ++ doubled q text :=
  List.flatMap_cons

theorem getLast?_doubled (text : List Char) : (doubled q text).getLast? = text.getLast? := by
  rcases List.eq_nil_or_concat text with rfl | ⟨front, c, rfl⟩
  · rfl
  · rw [List.concat_eq_append, doubled, List.flatMap_append, List.getLast?_append,
      List.getLast?_concat]
    by_cases isQuote : c = q
    · simp [isQuote]
    · simp [isQuote]

end PlainTables.Text
