import Mathlib.Logic.Basic
import PlainTables.Lines.Buffered
import PlainTables.Proofs.Lines.Bytes

/-!
# Lines do not depend on the pieces of a stream

A stream that gives at least one byte as long as there are any has the lines of its bytes, in whatever
pieces it gives them.
-/

namespace PlainTables

/-- A read gives at least one byte if there are any and any are asked for. -/
def ByteSource.Steady (β : Type) [ByteSource β] : Prop :=
  ∀ (s : β) n, 0 < n → content s ≠ [] → (read s n).1 ≠ []

/-- What the next lines are, and how many have been read after each of them. -/
def LineSource.transcript {ρ : Type} [LineSource ρ] :
    Nat → ρ → List (Except QueryError (Option String) × Nat)
  | 0, _ => []
  | n + 1, r => ((readLine r).1, lineNumber (readLine r).2) :: transcript n (readLine r).2

namespace ByteLines

variable {piece : List UInt8}

theorem splitLine_of_mem (ends : newline ∈ piece) (rest : List UInt8) :
    splitLine (piece ++ rest) = ((splitLine piece).1, (splitLine piece).2 ++ rest) := by
  induction piece with
  | nil => cases ends
  | cons b piece ih =>
    by_cases here : b = newline
    · simp [splitLine, here]
    · have later : newline ∈ piece := (List.mem_cons.mp ends).resolve_left fun same => here same.symm
      have tail := ih later
      simp only [splitLine, Prod.mk.injEq] at tail ⊢
      rw [List.cons_append, List.takeWhile_cons_of_pos (by simpa using here),
        List.dropWhile_cons_of_pos (by simpa using here), tail.1, tail.2,
        List.takeWhile_cons_of_pos (by simpa using here),
        List.dropWhile_cons_of_pos (by simpa using here)]
      exact ⟨rfl, rfl⟩

theorem splitLine_of_notMem (within : newline ∉ piece) (rest : List UInt8) :
    splitLine (piece ++ rest) = (piece ++ (splitLine rest).1, (splitLine rest).2) := by
  have inside : ∀ b ∈ piece, (b ≠ newline : Bool) = true := by
    intro b mem
    simpa using ne_of_mem_of_not_mem mem within
  rw [splitLine, splitLine, List.takeWhile_append_of_pos inside, List.dropWhile_append_of_pos inside]

theorem splitLine_of_end (within : newline ∉ piece) : splitLine piece = (piece, []) := by
  have split := splitLine_of_notMem within []
  rwa [List.append_nil, show splitLine [] = ([], []) from rfl, List.append_nil] at split

def firstLine (bytes : List UInt8) : List UInt8 :=
  (splitLine bytes).1 ++ if newline ∈ bytes then [newline] else []

theorem firstLine_ne_nil {b : UInt8} {bytes : List UInt8} : firstLine (b :: bytes) ≠ [] := by
  intro empty
  obtain ⟨noFront, noEnding⟩ := List.append_eq_nil_iff.mp empty
  by_cases ends : newline ∈ b :: bytes
  · rw [if_pos ends] at noEnding
    cases noEnding
  · rw [splitLine_of_end ends] at noFront
    cases noFront

end ByteLines

namespace BufferedLines

open ByteLines

theorem textOf_firstLine (bytes : List UInt8) : textOf (firstLine bytes) = lineOf bytes := by
  unfold textOf lineOf firstLine
  by_cases ends : newline ∈ bytes
  · have shorter : (bytes.takeWhile (· ≠ newline)).length < bytes.length := by
      obtain ⟨front, rest, rfl, before⟩ := List.eq_append_cons_of_mem ends
      rw [takeWhile_line rest before]
      simp
    simp only [if_pos ends, List.getLast?_concat, List.dropLast_concat, if_true, shorter, true_and,
      splitLine]
  · have whole : bytes.takeWhile (· ≠ newline) = bytes := congrArg Prod.fst (splitLine_of_end ends)
    have noEnding : bytes.getLast? ≠ some newline := fun last =>
      ends (List.mem_of_getLast? last)
    simp only [if_neg ends, List.append_nil, splitLine, whole, noEnding, if_false,
      Nat.lt_irrefl, false_and]

theorem firstLine_of_mem {piece : List UInt8} (ends : newline ∈ piece) (rest : List UInt8) :
    firstLine (piece ++ rest) = (splitLine piece).1 ++ [newline] := by
  rw [firstLine, splitLine_of_mem ends, if_pos (List.mem_append_left rest ends)]

theorem firstLine_of_notMem {piece : List UInt8} (within : newline ∉ piece) (rest : List UInt8) :
    firstLine (piece ++ rest) = piece ++ firstLine rest := by
  have same : newline ∈ piece ++ rest ↔ newline ∈ rest := by
    rw [List.mem_append]
    exact or_iff_right within
  simp only [firstLine, splitLine_of_notMem within, same, List.append_assoc]

variable {β : Type} [ByteSource β] {capacity : Nat}

/-- There is nothing more to use only at the end of the stream. -/
theorem nothing_of_fill (steady : ByteSource.Steady β) (room : 0 < capacity) (buffer : List UInt8)
    (s : β) (nothing : (fill capacity buffer s).1 = []) : buffer ++ ByteSource.content s = [] := by
  cases buffer with
  | cons b buffer => cases nothing
  | nil => exact by_contra fun more => steady s capacity room more nothing

theorem takeLine_eq (steady : ByteSource.Steady β) (room : 0 < capacity) {fuel : Nat}
    (buffer : List UInt8) (s : β)
    (enough : (buffer ++ ByteSource.content s).length < fuel) :
    (takeLine capacity fuel buffer s).1 = firstLine (buffer ++ ByteSource.content s) ∧
      (takeLine capacity fuel buffer s).2.1 ++
          ByteSource.content (takeLine capacity fuel buffer s).2.2 =
        (splitLine (buffer ++ ByteSource.content s)).2 := by
  induction fuel generalizing buffer s with
  | zero => exact absurd enough (Nat.not_lt_zero _)
  | succ fuel ih =>
    have filled := fill_append_content capacity buffer s
    have nothing := nothing_of_fill steady room buffer s
    rw [takeLine]
    generalize fill capacity buffer s = step at filled nothing ⊢
    obtain ⟨piece, s'⟩ := step
    simp only at filled nothing ⊢
    by_cases stops : piece = []
    · have ended := nothing stops
      rw [ended, stops] at filled
      rw [ended, stops]
      exact ⟨rfl, filled⟩
    · have taken := List.length_pos_iff.mpr stops
      rw [← filled, List.length_append] at enough
      rw [← filled, if_neg (by simpa using stops)]
      by_cases ends : newline ∈ piece
      · rw [if_pos ends, firstLine_of_mem ends, splitLine_of_mem ends]
        exact ⟨rfl, rfl⟩
      · obtain ⟨line, after⟩ := ih [] s' (by rw [List.nil_append]; omega)
        rw [List.nil_append] at line after
        rw [if_neg ends, firstLine_of_notMem ends, splitLine_of_notMem ends, line]
        exact ⟨rfl, after⟩

/-- The lines of a stream in pieces go on as the lines of some bytes do. -/
structure Shows (r : BufferedLines β) (b : ByteLines) : Prop where
  stream : ∃ s, r.stream = some s ∧ b.stream = .bytes (r.buffer ++ ByteSource.content s)
  lineNumber : r.lineNumber = b.lineNumber
  room : 0 < r.capacity

theorem Shows.readLine (steady : ByteSource.Steady β) {r : BufferedLines β} {b : ByteLines}
    (shows : Shows r b) :
    (r.readLine).1 = (b.readLine).1 ∧ Shows (r.readLine).2 (b.readLine).2 := by
  obtain ⟨⟨s, opened, same⟩, number, room⟩ := shows
  have enough : (r.buffer ++ ByteSource.content s).length < r.size + 1 := by
    rw [size, opened, List.length_append]
    exact Nat.lt_succ_self _
  obtain ⟨line, after⟩ := takeLine_eq steady room r.buffer s enough
  unfold BufferedLines.readLine ByteLines.readLine
  rw [opened, same]
  simp only
  generalize takeLine r.capacity (r.size + 1) r.buffer s = step at line after ⊢
  obtain ⟨taken, buffer, s'⟩ := step
  simp only at line after ⊢
  generalize r.buffer ++ ByteSource.content s = bytes at same line after ⊢
  subst line
  cases bytes with
  | nil => exact ⟨rfl, ⟨s', rfl, same.trans (congrArg Stream.bytes after.symm)⟩, number, room⟩
  | cons c bytes =>
    rw [if_neg (by simpa using firstLine_ne_nil), textOf_firstLine]
    exact ⟨rfl, ⟨s', rfl, congrArg Stream.bytes after.symm⟩, congrArg (· + 1) number, room⟩

theorem Shows.transcript (steady : ByteSource.Steady β) {r : BufferedLines β} {b : ByteLines}
    (shows : Shows r b) (n : Nat) : LineSource.transcript n r = LineSource.transcript n b := by
  induction n generalizing r b with
  | zero => rfl
  | succ n ih =>
    obtain ⟨answer, later⟩ := shows.readLine steady
    have rest := ih later
    change (_, _) :: _ = (_, _) :: _
    exact congrArg₂ List.cons (congrArg₂ Prod.mk answer later.lineNumber) rest

theorem shows_ofStream (room : 0 < capacity) (s : β) :
    Shows (ofStream s capacity) (.ofBytes (ByteSource.content s)) where
  stream := ⟨s, rfl, rfl⟩
  lineNumber := rfl
  room := room

/-- In whatever pieces a stream gives its bytes, its lines are those of the bytes. -/
theorem transcript_ofStream (steady : ByteSource.Steady β) (room : 0 < capacity) (s : β) (n : Nat) :
    LineSource.transcript n (ofStream s capacity) =
      LineSource.transcript n (ByteLines.ofBytes (ByteSource.content s)) :=
  (shows_ofStream room s).transcript steady n

end BufferedLines

end PlainTables
