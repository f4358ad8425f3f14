import PlainTables.Lines.Bytes
import PlainTables.Proofs.Text.Utf8

/-!
# Lines of a text

A text that is read as bytes gives back its lines. A line may end with a newline alone only if its
last character is not a carriage return, which would be taken as part of the ending.
-/

namespace PlainTables.ByteLines

def ofText (lineNumber : Nat) (text : List Char) : ByteLines where
  stream := .bytes (Utf8.encode text)
  lineNumber

/-- The endings of a line that keep it apart from what follows. -/
inductive Ends (line : List Char) : List Char → Prop
  | newline : line.getLast? ≠ some '\r' → Ends line ['\n']
  | carriageReturn : Ends line ['\r', '\n']

theorem Ends.of_append {front line ending : List Char} (ends : Ends (front ++ '\n' :: line) ending) :
    Ends line ending := by
  cases ends with
  | carriageReturn => exact .carriageReturn
  | newline noReturn =>
    refine .newline fun last => noReturn ?_
    rw [List.getLast?_append, List.getLast?_cons, last]
    rfl

theorem takeWhile_line {body : List UInt8} (rest : List UInt8) (oneLine : newline ∉ body) :
    (body ++ newline :: rest).takeWhile (· ≠ newline) = body := by
  have inside : ∀ b ∈ body, (b ≠ newline : Bool) = true := by
    intro b mem
    simpa using ne_of_mem_of_not_mem mem oneLine
  rw [List.takeWhile_append_of_pos inside]
  simp

theorem splitLine_line {body : List UInt8} (rest : List UInt8) (oneLine : newline ∉ body) :
    splitLine (body ++ newline :: rest) = (body, rest) := by
  have inside : ∀ b ∈ body, (b ≠ newline : Bool) = true := by
    intro b mem
    simpa using ne_of_mem_of_not_mem mem oneLine
  rw [splitLine, takeWhile_line rest oneLine, List.dropWhile_append_of_pos inside]
  simp

theorem lineOf_line {body : List UInt8} (rest : List UInt8) (oneLine : newline ∉ body) :
    lineOf (body ++ newline :: rest) =
      String.ofList (Utf8.decode (if body.getLast? = some 13 then body.dropLast else body)) := by
  have shorter : body.length < (body ++ newline :: rest).length := by
    rw [List.length_append, List.length_cons]
    omega
  simp only [lineOf, takeWhile_line rest oneLine, shorter, true_and]

theorem not_mem_encode {line : List Char} (oneLine : '\n' ∉ line) : newline ∉ Utf8.encode line :=
  fun mem => oneLine (Utf8.mem_of_mem_encode (c := '\n') (by decide) mem)

theorem readLine_bytes {body : List UInt8} (rest : List UInt8) (n : Nat) (oneLine : newline ∉ body) :
    readLine ⟨.bytes (body ++ newline :: rest), n⟩ =
      (.ok (some (lineOf (body ++ newline :: rest))), ⟨.bytes rest, n + 1⟩) := by
  have split := splitLine_line rest oneLine
  cases body with
  | nil => simp_all [readLine]
  | cons b body => simp_all [readLine]

theorem readLine_ofText {line ending : List Char} (n : Nat) (more : List Char)
    (oneLine : '\n' ∉ line) (ends : Ends line ending) :
    readLine (ofText n (line ++ (ending ++ more))) =
      (.ok (some (String.ofList line)), ofText (n + 1) more) := by
  have inside := not_mem_encode oneLine
  cases ends with
  | newline noReturn =>
    have bytes : Utf8.encode (line ++ (['\n'] ++ more)) =
        Utf8.encode line ++ newline :: Utf8.encode more := by
      rw [Utf8.encode_append, Utf8.encode_append]
      rfl
    have keeps : (Utf8.encode line).getLast? ≠ some 13 := fun last =>
      noReturn (Utf8.getLast?_of_encode (c := '\r') (by decide) last)
    rw [ofText, bytes, readLine_bytes _ _ inside, lineOf_line _ inside, if_neg keeps,
      Utf8.decode_encode]
    rfl
  | carriageReturn =>
    have bytes : Utf8.encode (line ++ (['\r', '\n'] ++ more)) =
        (Utf8.encode line ++ [13]) ++ newline :: Utf8.encode more := by
      rw [Utf8.encode_append, Utf8.encode_append, List.append_assoc]
      rfl
    have inside' : newline ∉ Utf8.encode line ++ [13] := by
      simp only [List.mem_append, inside, List.mem_singleton, false_or]
      decide
    rw [ofText, bytes, readLine_bytes _ _ inside', lineOf_line _ inside',
      if_pos List.getLast?_concat, List.dropLast_concat, Utf8.decode_encode]
    rfl

theorem size_ofText (n : Nat) (text : List Char) : text.length ≤ size (ofText n text) := by
  change text.length ≤ (Utf8.encode text).length
  induction text with
  | nil => exact Nat.le_refl 0
  | cons c text ih =>
    have nonempty := List.length_pos_iff.mpr (String.utf8EncodeChar_ne_nil (c := c))
    rw [Utf8.encode_cons, List.length_append, List.length_cons]
    omega

end PlainTables.ByteLines
