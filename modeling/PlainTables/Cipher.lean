import PlainTables.QueryError
import PlainTables.Text.Casing
import PlainTables.Text.Utf8

/-!
# Ciphers

Files may be encrypted by combining their bytes with a key that repeats. A cipher is found by its
name, without regard to case, among those that are registered; every stream that it decrypts gets a
filter of its own.
-/

namespace PlainTables

def decryptEach {φ : Type} (decryptByte : φ → UInt8 → UInt8 × φ) (f : φ) :
    List UInt8 → List UInt8 × φ
  | [] => ([], f)
  | b :: bytes =>
    let (c, f) := decryptByte f b
    let (cs, f) := decryptEach decryptByte f bytes
    (c :: cs, f)

/-- What decrypts a stream byte by byte, and can go back to its start. Several bytes may be decrypted at
once, with the same result. -/
class CryptoFilter (φ : Type) where
  decryptByte : φ → UInt8 → UInt8 × φ
  reset : φ → φ
  decrypt : φ → List UInt8 → List UInt8 × φ := decryptEach decryptByte
  decrypt_nil : ∀ f, decrypt f [] = ([], f) := by intros; rfl
  decrypt_cons : ∀ f b bytes, decrypt f (b :: bytes) =
    ((decryptByte f b).1 :: (decrypt (decryptByte f b).2 bytes).1,
      (decrypt (decryptByte f b).2 bytes).2) := by intros; rfl

namespace CryptoFilter

variable {φ : Type} [CryptoFilter φ]

theorem length_decrypt (f : φ) (bytes : List UInt8) : (decrypt f bytes).1.length = bytes.length := by
  induction bytes generalizing f with
  | nil => rw [decrypt_nil]
  | cons b bytes ih => rw [decrypt_cons, List.length_cons, List.length_cons, ih]

theorem decrypt_append (f : φ) (front rest : List UInt8) :
    decrypt f (front ++ rest) =
      ((decrypt f front).1 ++ (decrypt (decrypt f front).2 rest).1,
        (decrypt (decrypt f front).2 rest).2) := by
  induction front generalizing f with
  | nil =>
    rw [decrypt_nil]
    rfl
  | cons b front ih => simp only [List.cons_append, decrypt_cons, ih]

end CryptoFilter

/-- A repeating key and the place of the byte in it that is used next. -/
structure KeyFilter where
  key : List UInt8
  position : Nat := 0
  key_ne_nil : key ≠ []
deriving DecidableEq

namespace KeyFilter

def ofSeed (seed : String) : Except CipherFault KeyFilter :=
  let key := Utf8.encode seed.toList
  if h : key = [] then .error .emptySeed else .ok ⟨key, 0, h⟩

def decryptByte (f : KeyFilter) (b : UInt8) : UInt8 × KeyFilter :=
  (b ^^^ f.key.getD f.position 0, { f with position := (f.position + 1) % f.key.length })

def decrypt (f : KeyFilter) : List UInt8 → List UInt8 × KeyFilter :=
  decryptEach decryptByte f

def reset (f : KeyFilter) : KeyFilter :=
  { f with position := 0 }

instance : CryptoFilter KeyFilter where
  decryptByte := decryptByte
  reset := reset

/-- The filter for the parameters of a cipher, of which there is one, the seed. -/
def ofParameters : List String → Except CipherFault KeyFilter
  | [seed] => ofSeed seed
  | parameters => .error (.parameterCount parameters.length)

end KeyFilter

/-- A filter of any kind, by what it makes of whole streams, and the bytes that it has decrypted since its
start. What it makes of a byte does not depend on later ones. -/
structure StreamFilter where
  transform : List UInt8 → List UInt8
  seen : List UInt8 := []
  length_transform : ∀ bytes, (transform bytes).length = bytes.length
  transform_prefix : ∀ front rest, transform front <+: transform (front ++ rest)

namespace StreamFilter

def decrypt (f : StreamFilter) (bytes : List UInt8) : List UInt8 × StreamFilter :=
  ((f.transform (f.seen ++ bytes)).drop f.seen.length, { f with seen := f.seen ++ bytes })

def decryptByte (f : StreamFilter) (b : UInt8) : UInt8 × StreamFilter :=
  ((f.decrypt [b]).1.headD 0, (f.decrypt [b]).2)

theorem decrypt_nil (f : StreamFilter) : f.decrypt [] = ([], f) := by
  refine Prod.ext ?_ (congrArg (StreamFilter.mk f.transform · _ _) (List.append_nil f.seen))
  exact List.drop_eq_nil_of_le (by simp [f.length_transform])

theorem decrypt_cons (f : StreamFilter) (b : UInt8) (bytes : List UInt8) :
    f.decrypt (b :: bytes) = ((f.decryptByte b).1 :: ((f.decryptByte b).2.decrypt bytes).1,
      ((f.decryptByte b).2.decrypt bytes).2) := by
  have parts : f.seen ++ b :: bytes = (f.seen ++ [b]) ++ bytes := List.append_cons ..
  obtain ⟨later, whole⟩ := f.transform_prefix (f.seen ++ [b]) bytes
  have first : (f.transform (f.seen ++ [b])).length = f.seen.length + 1 := by
    rw [f.length_transform, List.length_append, List.length_singleton]
  obtain ⟨c, dropped⟩ : ∃ c, (f.transform (f.seen ++ [b])).drop f.seen.length = [c] := by
    rw [← List.length_eq_one_iff, List.length_drop, first, Nat.add_sub_cancel_left]
  refine Prod.ext ?_ (congrArg (StreamFilter.mk f.transform · _ _) parts)
  have here : (f.decryptByte b).1 = c := by
    simp only [decryptByte, decrypt, dropped, List.headD_cons]
  have next : ((f.decryptByte b).2.decrypt bytes).1 = later := by
    change (f.transform (f.seen ++ [b] ++ bytes)).drop (f.seen ++ [b]).length = later
    rw [← whole, List.length_append, List.length_singleton, ← first, List.drop_left]
  change (f.transform (f.seen ++ b :: bytes)).drop f.seen.length = _
  rw [parts, ← whole, List.drop_append_of_le_length (by omega), dropped, here, next]
  rfl

def reset (f : StreamFilter) : StreamFilter :=
  { f with seen := [] }

instance : CryptoFilter StreamFilter where
  decryptByte := decryptByte
  reset := reset
  decrypt := decrypt
  decrypt_nil := decrypt_nil
  decrypt_cons := decrypt_cons

def ofFilter {φ : Type} [CryptoFilter φ] (f : φ) : StreamFilter where
  transform bytes := (CryptoFilter.decrypt f bytes).1
  length_transform := CryptoFilter.length_decrypt f
  transform_prefix front rest := by
    rw [CryptoFilter.decrypt_append]
    exact List.prefix_append ..

end StreamFilter

abbrev CipherKind := List String → Except CipherFault StreamFilter

/-- A cipher that has been found and has accepted its parameters. -/
structure Cipher where
  name : String
  parameters : List String
  kind : CipherKind

def Cipher.newFilter (c : Cipher) : Except QueryError StreamFilter :=
  match c.kind c.parameters with
  | .ok f => .ok f
  | .error fault => .error (.invalidConfiguration (.cipher fault))

/-- The known kinds of ciphers under their names in lower case, the latest first. -/
structure CipherCatalog where
  kinds : List (String × CipherKind) := []

namespace CipherCatalog

def register {φ : Type} [CryptoFilter φ] (catalog : CipherCatalog) (name : String)
    (kind : List String → Except CipherFault φ) : CipherCatalog :=
  ⟨(Text.lowercase name, fun parameters => (kind parameters).map .ofFilter) :: catalog.kinds⟩

def standard : CipherCatalog :=
  ({} : CipherCatalog).register "XORCipher" KeyFilter.ofParameters

def resolve (catalog : CipherCatalog) (name : String) (parameters : List String) :
    Except QueryError Cipher :=
  match catalog.kinds.lookup (Text.lowercase name) with
  | none => .error (.unknownCipher name none)
  | some kind =>
    match kind parameters with
    | .ok _ => .ok ⟨name, parameters, kind⟩
    | .error fault => .error (.unknownCipher name (some fault))

end CipherCatalog

end PlainTables
