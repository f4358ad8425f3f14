import PlainTables.Lines
import PlainTables.Text.Utf8

/-!
# Lines of a stream of bytes

A line ends at a newline, before which one carriage return is dropped. Invalid UTF-8 is replaced.
-/

namespace PlainTables

/-- What is left of a stream. What is not a file can be opened but not read. -/
inductive Stream where
  | closed
  | unreadable
  | bytes (rest : List UInt8)
deriving DecidableEq

structure ByteLines where
  stream : Stream
  lineNumber : Nat := 0
deriving DecidableEq

namespace ByteLines

def ofBytes (bytes : List UInt8) : ByteLines where
  stream := .bytes bytes

def newline : UInt8 := 10

def splitLine (bytes : List UInt8) : List UInt8 × List UInt8 :=
  (bytes.takeWhile (· ≠ newline), (bytes.dropWhile (· ≠ newline)).drop 1)

/-- The line at the front of a stream; a carriage return is part of a terminator only if a newline
follows. -/
def lineOf (bytes : List UInt8) : String :=
  let line := bytes.takeWhile (· ≠ newline)
  let text := if line.length < bytes.length ∧ line.getLast? = some 13 then line.dropLast else line
  String.ofList (Utf8.decode text)

def readLine (r : ByteLines) : Reading ByteLines (Option String) :=
  match r.stream with
  | .closed => (.error (.io .streamClosed), r)
  | .unreadable => (.error (.io .isADirectory), r)
  | .bytes [] => (.ok none, r)
  | .bytes (b :: bytes) =>
    (.ok (some (lineOf (b :: bytes))),
      ⟨.bytes (splitLine (b :: bytes)).2, r.lineNumber + 1⟩)

def close (r : ByteLines) : ByteLines :=
  { r with stream := .closed }

def size (r : ByteLines) : Nat :=
  match r.stream with
  | .bytes bytes => bytes.length
  | _ => 0

theorem length_splitLine (b : UInt8) (bytes : List UInt8) :
    (splitLine (b :: bytes)).2.length < (b :: bytes).length := by
  have h : ∀ l : List UInt8, (l.dropWhile (· ≠ newline)).length ≤ l.length := fun l =>
    (List.dropWhile_sublist _).length_le
  have := h bytes
  by_cases hb : b = newline
  · simp [splitLine, hb]
  · simp only [splitLine, List.length_drop, List.length_cons]
    rw [List.dropWhile_cons_of_pos (by simpa using hb)]
    omega

theorem size_readLine (r : ByteLines) :
    (∀ line, (readLine r).1 = .ok (some line) → size (readLine r).2 < size r) ∧
      size (readLine r).2 ≤ size r := by
  unfold readLine
  split
  · simp
  · simp
  · simp
  · rename_i b bytes h
    have := length_splitLine b bytes
    simp only [size, h]
    exact ⟨fun _ _ => this, Nat.le_of_lt this⟩

instance : LineSource ByteLines where
  readLine := readLine
  readContinuation := readLine
  lineNumber := lineNumber
  fileValues _ := []
  close := close
  remaining := size
  remaining_readLine r := (size_readLine r).1
  remaining_readLine_le r := (size_readLine r).2
  remaining_readContinuation r := (size_readLine r).1
  remaining_readContinuation_le r := (size_readLine r).2

end ByteLines

end PlainTables
