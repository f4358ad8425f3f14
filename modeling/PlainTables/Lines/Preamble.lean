import PlainTables.Lines

/-!
# Skipping lines

Lines to drop at the top of a text: a fixed number of them, or all that are empty or comments.
-/

namespace PlainTables.LineSource

/-- A line of the preamble: empty or a comment, if there are comments at all. -/
def isPreamble (commentChar : Option Char) (line : String) : Bool :=
  match commentChar with
  | some c => line.isEmpty || line.toList.head? = some c
  | none => false

variable {ρ : Type} [LineSource ρ]

def skip : Nat → ρ → Reading ρ Unit
  | 0, r => (.ok (), r)
  | n + 1, r =>
    match readLine r with
    | (.error e, r) => (.error e, r)
    | (.ok none, r) => (.ok (), r)
    | (.ok (some _), r) => skip n r

/-- The first line after the preamble, looked for in as many lines as the count. -/
def readAfterPreamble (commentChar : Option Char) : Nat → ρ → Reading ρ (Option String)
  | 0, r => (.ok none, r)
  | n + 1, r =>
    match readLine r with
    | (.error e, r) => (.error e, r)
    | (.ok none, r) => (.ok none, r)
    | (.ok (some line), r) =>
      if isPreamble commentChar line then readAfterPreamble commentChar n r else (.ok (some line), r)

theorem remaining_skip_le (n : Nat) (r : ρ) : remaining (skip n r).2 ≤ remaining r := by
  induction n generalizing r with
  | zero => exact Nat.le_refl _
  | succ n ih =>
    have hr := remaining_readLine_le r
    unfold skip
    generalize readLine r = reading at hr ⊢
    obtain ⟨result, s⟩ := reading
    match result with
    | .error e => exact hr
    | .ok none => exact hr
    | .ok (some line) => exact Nat.le_trans (ih s) hr

theorem remaining_readAfterPreamble_le (c : Option Char) (n : Nat) (r : ρ) :
    remaining (readAfterPreamble c n r).2 ≤ remaining r := by
  induction n generalizing r with
  | zero => exact Nat.le_refl _
  | succ n ih =>
    have hr := remaining_readLine_le r
    unfold readAfterPreamble
    generalize readLine r = reading at hr ⊢
    obtain ⟨result, s⟩ := reading
    match result with
    | .error e => exact hr
    | .ok none => exact hr
    | .ok (some line) =>
      simp only
      split
      · exact Nat.le_trans (ih s) hr
      · exact hr

theorem remaining_readAfterPreamble (c : Option Char) (n : Nat) (r : ρ) (line : String)
    (h : (readAfterPreamble c n r).1 = .ok (some line)) :
    remaining (readAfterPreamble c n r).2 < remaining r := by
  induction n generalizing r with
  | zero => simp [readAfterPreamble] at h
  | succ n ih =>
    have hr := remaining_readLine r
    unfold readAfterPreamble at h ⊢
    generalize readLine r = reading at hr h ⊢
    obtain ⟨result, s⟩ := reading
    match result with
    | .error e => simp at h
    | .ok none => simp at h
    | .ok (some line) =>
      simp only at h ⊢
      split at h
      · rename_i hp
        simp only [hp, if_true]
        exact Nat.lt_trans (ih s h) (hr line rfl)
      · rename_i hp
        simp only [hp]
        exact hr line rfl

end PlainTables.LineSource
