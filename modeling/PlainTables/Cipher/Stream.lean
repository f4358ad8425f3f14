import PlainTables.Cipher

/-!
# Decrypted streams

A stream of bytes that is decrypted as it is read, in pieces of any size.
-/

namespace PlainTables

/-- A stream of bytes. A read gives at most the bytes asked for, and may give fewer. -/
class ByteSource (β : Type) where
  read : β → Nat → List UInt8 × β
  /-- The bytes that are still to come. -/
  content : β → List UInt8
  length_read_le : ∀ s n, (read s n).1.length ≤ n
  read_append_content : ∀ s n, (read s n).1 ++ content (read s n).2 = content s

instance : ByteSource (List UInt8) where
  read s n := (s.take n, s.drop n)
  content := id
  length_read_le s n := List.length_take_le n s
  read_append_content := by simp

structure DecryptedStream (β φ : Type) where
  inner : β
  filter : φ

section

variable {β φ : Type} [ByteSource β] [CryptoFilter φ]

def DecryptedStream.read (s : DecryptedStream β φ) (n : Nat) : List UInt8 × DecryptedStream β φ :=
  let (bytes, inner) := ByteSource.read s.inner n
  let (plain, filter) := CryptoFilter.decrypt s.filter bytes
  (plain, ⟨inner, filter⟩)

instance : ByteSource (DecryptedStream β φ) where
  read := DecryptedStream.read
  content s := (CryptoFilter.decrypt s.filter (ByteSource.content s.inner)).1
  length_read_le s n := by
    have short := ByteSource.length_read_le s.inner n
    simpa only [DecryptedStream.read, CryptoFilter.length_decrypt] using short
  read_append_content s n := by
    simp only [DecryptedStream.read]
    rw [← ByteSource.read_append_content s.inner n, CryptoFilter.decrypt_append]

end

/-- The bytes of a file, decrypted if it is encrypted. -/
def Cipher.decryptFile (cipher : Option Cipher) (bytes : List UInt8) :
    Except QueryError (List UInt8) :=
  match cipher with
  | none => .ok bytes
  | some c => do
    let filter ← c.newFilter
    return (CryptoFilter.decrypt filter bytes).1

end PlainTables
