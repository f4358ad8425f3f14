import PlainTables.Cipher.Stream
import PlainTables.Lines.Bytes

/-!
# Lines of a stream that is read in pieces

A stream gives its bytes in pieces, which are kept in a buffer until they are used. A line may go over
several pieces, and a piece may hold several lines.
-/

namespace PlainTables

/-- The lines of a stream of bytes. The buffer holds bytes that have been read and not been used; a
stream that has been closed is gone. -/
structure BufferedLines (β : Type) where
  stream : Option β
  capacity : Nat := 8192
  buffer : List UInt8 := []
  lineNumber : Nat := 0

namespace BufferedLines

variable {β : Type} [ByteSource β]

def ofStream (stream : β) (capacity : Nat) : BufferedLines β where
  stream := some stream
  capacity

/-- The bytes to use next: those in the buffer, or else a piece of the stream. -/
def fill (capacity : Nat) (buffer : List UInt8) (s : β) : List UInt8 × β :=
  if buffer.isEmpty then ByteSource.read s capacity else (buffer, s)

/-- Takes the bytes up to the next newline and with it, from as many pieces as the count at most. Gives
them with the buffer and the stream after them. -/
def takeLine (capacity : Nat) : Nat → List UInt8 → β → List UInt8 × List UInt8 × β
  | 0, buffer, s => ([], buffer, s)
  | fuel + 1, buffer, s =>
    let (piece, s) := fill capacity buffer s
    if piece.isEmpty then ([], [], s)
    else if ByteLines.newline ∈ piece then
      let (front, rest) := ByteLines.splitLine piece
      (front ++ [ByteLines.newline], rest, s)
    else
      let (line, buffer, s) := takeLine capacity fuel [] s
      (piece ++ line, buffer, s)

def textOf (line : List UInt8) : String :=
  let body := if line.getLast? = some ByteLines.newline then
      if line.dropLast.getLast? = some 13 then line.dropLast.dropLast else line.dropLast
    else line
  String.ofList (Utf8.decode body)

def size (r : BufferedLines β) : Nat :=
  r.buffer.length + (r.stream.map fun s => (ByteSource.content s).length).getD 0

def readLine (r : BufferedLines β) : Reading (BufferedLines β) (Option String) :=
  match r.stream with
  | none => (.error (.io .streamClosed), r)
  | some s =>
    let (line, buffer, s) := takeLine r.capacity (r.size + 1) r.buffer s
    if line.isEmpty then (.ok none, { r with stream := some s, buffer })
    else
      (.ok (some (textOf line)),
        { r with stream := some s, buffer, lineNumber := r.lineNumber + 1 })

def close (r : BufferedLines β) : BufferedLines β :=
  { r with stream := none, buffer := [] }

theorem fill_append_content (capacity : Nat) (buffer : List UInt8) (s : β) :
    (fill capacity buffer s).1 ++ ByteSource.content (fill capacity buffer s).2 =
      buffer ++ ByteSource.content s := by
  cases buffer with
  | nil => exact ByteSource.read_append_content s capacity
  | cons b buffer => rfl

theorem splitLine_append {piece : List UInt8} (ends : ByteLines.newline ∈ piece) :
    (ByteLines.splitLine piece).1 ++ [ByteLines.newline] ++ (ByteLines.splitLine piece).2 =
      piece := by
  induction piece with
  | nil => cases ends
  | cons b piece ih =>
    by_cases here : b = ByteLines.newline
    · simp [ByteLines.splitLine, here]
    · have later : ByteLines.newline ∈ piece :=
        (List.mem_cons.mp ends).resolve_left fun same => here same.symm
      have rest := ih later
      simp only [ByteLines.splitLine] at rest ⊢
      rw [List.takeWhile_cons_of_pos (by simpa using here),
        List.dropWhile_cons_of_pos (by simpa using here)]
      simpa only [List.cons_append, List.cons.injEq, true_and] using rest

/-- No byte is lost: a line and what is left after it are what was there before. -/
theorem takeLine_append_content (capacity fuel : Nat) (buffer : List UInt8) (s : β) :
    (takeLine capacity fuel buffer s).1 ++ (takeLine capacity fuel buffer s).2.1 ++
        ByteSource.content (takeLine capacity fuel buffer s).2.2 =
      buffer ++ ByteSource.content s := by
  induction fuel generalizing buffer s with
  | zero => rfl
  | succ fuel ih =>
    have filled := fill_append_content capacity buffer s
    rw [takeLine]
    generalize fill capacity buffer s = step at filled ⊢
    obtain ⟨piece, s'⟩ := step
    simp only at filled ⊢
    split
    · rename_i noMore
      rw [List.isEmpty_iff.mp noMore] at filled
      exact filled
    · split
      · rename_i ends
        rw [← filled]
        exact congrArg (· ++ ByteSource.content s') (splitLine_append ends)
      · rw [← filled]
        have rest := ih [] s'
        rw [List.nil_append] at rest
        simp only [List.append_assoc] at rest ⊢
        rw [rest]

theorem size_readLine (r : BufferedLines β) :
    (∀ line, (readLine r).1 = .ok (some line) → size (readLine r).2 < size r) ∧
      size (readLine r).2 ≤ size r := by
  unfold readLine
  cases stream : r.stream with
  | none => simp
  | some s =>
    have kept := congrArg List.length
      (takeLine_append_content r.capacity (r.size + 1) r.buffer s)
    simp only
    generalize takeLine r.capacity (r.size + 1) r.buffer s = step at kept ⊢
    obtain ⟨line, buffer, s'⟩ := step
    simp only [List.length_append] at kept
    have before : size r = r.buffer.length + (ByteSource.content s).length := by
      rw [size, stream]
      rfl
    have after (lineNumber : Nat) : size { r with stream := some s', buffer, lineNumber } =
        buffer.length + (ByteSource.content s').length := rfl
    cases line with
    | nil =>
      rw [List.length_nil] at kept
      refine ⟨by simp, ?_⟩
      have ended := after r.lineNumber
      simp only [List.isEmpty_nil, if_true]
      omega
    | cons b line =>
      rw [List.length_cons] at kept
      have taken := after (r.lineNumber + 1)
      simp only [List.isEmpty_cons, Bool.false_eq_true, if_false]
      exact ⟨fun _ _ => by omega, by omega⟩

instance : LineSource (BufferedLines β) where
  readLine := readLine
  readContinuation := readLine
  lineNumber := lineNumber
  fileValues _ := []
  close := close
  remaining := size
  remaining_readLine r := (size_readLine r).1
  remaining_readLine_le r := (size_readLine r).2
  remaining_readContinuation r := (size_readLine r).1
  remaining_readContinuation_le r := (size_readLine r).2

end BufferedLines

end PlainTables
