import PlainTables.Text.Characters

/-!
# Parts of texts

Texts are taken apart at a separator, and items that are joined with it are the parts again.
-/

namespace PlainTables.Text

/-- The parts of a text between separators; there is always at least one. -/
def splitOn (separator : Char) : List Char → List (List Char)
  | [] => [[]]
  | c :: s =>
    match splitOn separator s with
    | part :: parts => if c = separator then [] :: part :: parts else (c :: part) :: parts
    | [] => [[c]]

/-- The trimmed parts of a list between commas, without the empty ones. -/
def listItems (s : String) : List String :=
  (((splitOn ',' s.toList).map trim).filter (!·.isEmpty)).map String.ofList

theorem splitOn_ne_nil (separator : Char) (s : List Char) : splitOn separator s ≠ [] := by
  cases s with
  | nil => simp [splitOn]
  | cons c s =>
    simp only [splitOn]
    split
    · split <;> simp
    · simp

theorem splitOn_of_not_mem {separator : Char} {s : List Char} (whole : separator ∉ s) :
    splitOn separator s = [s] := by
  induction s with
  | nil => rfl
  | cons c s ih =>
    obtain ⟨other, whole⟩ := List.ne_and_not_mem_of_not_mem_cons whole
    rw [splitOn, ih whole]
    exact if_neg (Ne.symm other)

theorem splitOn_append {separator : Char} {first : List Char} (whole : separator ∉ first)
    (rest : List Char) :
    splitOn separator (first ++ separator :: rest) = first :: splitOn separator rest := by
  induction first with
  | nil =>
    obtain ⟨part, parts, split⟩ := List.exists_cons_of_ne_nil (splitOn_ne_nil separator rest)
    rw [List.nil_append, splitOn, split]
    exact if_pos rfl
  | cons c first ih =>
    obtain ⟨other, whole⟩ := List.ne_and_not_mem_of_not_mem_cons whole
    rw [List.cons_append, splitOn, ih whole]
    exact if_neg (Ne.symm other)

theorem splitOn_intercalate {separator : Char} {items : List (List Char)} (nonempty : items ≠ [])
    (whole : ∀ item ∈ items, separator ∉ item) :
    splitOn separator ([separator].intercalate items) = items := by
  induction items with
  | nil => exact absurd rfl nonempty
  | cons item items ih =>
    obtain ⟨first, others⟩ := List.forall_mem_cons.mp whole
    cases items with
    | nil =>
      rw [List.intercalate_singleton]
      exact splitOn_of_not_mem first
    | cons next items =>
      rw [List.intercalate_cons_cons, List.append_assoc, List.singleton_append, splitOn_append first,
        ih (List.cons_ne_nil _ _) others]

end PlainTables.Text
