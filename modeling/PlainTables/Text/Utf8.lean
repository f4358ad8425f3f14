/-!
# UTF-8

Decoding of bytes that may be invalid. Every longest run of bytes that starts a character without
completing it is read as one replacement character.
-/

namespace PlainTables.Utf8

def replacement : Char := '\ufffd'

/-- A character of which some bytes have been read: its bits so far, how many bytes are missing, and
the range in which the next one has to lie. -/
structure Partial where
  bits : Nat
  missing : Nat
  low : Nat
  high : Nat

/-- What a byte starts: a character of its own, a longer one, or nothing valid. -/
def start (b : Nat) : List Char × Option Partial :=
  if b < 0x80 then ([Char.ofNat b], none)
  else if 0xc2 ≤ b ∧ b ≤ 0xdf then ([], some ⟨b % 32, 1, 0x80, 0xbf⟩)
  else if b = 0xe0 then ([], some ⟨0, 2, 0xa0, 0xbf⟩)
  else if b = 0xed then ([], some ⟨13, 2, 0x80, 0x9f⟩)
  else if 0xe1 ≤ b ∧ b ≤ 0xef then ([], some ⟨b % 16, 2, 0x80, 0xbf⟩)
  else if b = 0xf0 then ([], some ⟨0, 3, 0x90, 0xbf⟩)
  else if b = 0xf4 then ([], some ⟨4, 3, 0x80, 0x8f⟩)
  else if 0xf1 ≤ b ∧ b ≤ 0xf3 then ([], some ⟨b % 8, 3, 0x80, 0xbf⟩)
  else ([replacement], none)

/-- Takes one more byte: the characters that are complete after it, and the open one. -/
def step (open? : Option Partial) (b : Nat) : List Char × Option Partial :=
  match open? with
  | none => start b
  | some p =>
    if p.low ≤ b ∧ b ≤ p.high then
      let bits := p.bits * 64 + b % 64
      if p.missing = 1 then ([Char.ofNat bits], none)
      else ([], some ⟨bits, p.missing - 1, 0x80, 0xbf⟩)
    else
      let (cs, next) := start b
      (replacement :: cs, next)

def decodeFrom (open? : Option Partial) : List UInt8 → List Char
  | [] => if open?.isSome then [replacement] else []
  | b :: bytes =>
    let (cs, next) := step open? b.toNat
    cs ++ decodeFrom next bytes

def decode (bytes : List UInt8) : List Char :=
  decodeFrom none bytes

def encode (s : List Char) : List UInt8 :=
  s.flatMap String.utf8EncodeChar

def decode? (bytes : List UInt8) : Option (List Char) :=
  let s := decode bytes
  if encode s = bytes then some s else none

end PlainTables.Utf8
