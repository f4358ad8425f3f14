import PlainTables.Proofs.Lines.Buffered

/-!
# Streams decrypted in pieces

The place in the key is the number of bytes that have been decrypted, modulo the length of the key. So
a stream may be read in pieces of any sizes.
-/

namespace PlainTables

namespace KeyFilter

variable {f g : KeyFilter}

/-- The states of a filter that started as `f`. -/
inductive Reaches (f : KeyFilter) : KeyFilter → Prop
  | start : Reaches f f
  | decryptByte {g : KeyFilter} (b : UInt8) : Reaches f g → Reaches f (g.decryptByte b).2
  | reset {g : KeyFilter} : Reaches f g → Reaches f g.reset

theorem length_decrypt (f : KeyFilter) (bytes : List UInt8) : (f.decrypt bytes).1.length = bytes.length :=
  CryptoFilter.length_decrypt f bytes

theorem Reaches.decrypt (reaches : Reaches f g) (bytes : List UInt8) :
    Reaches f (g.decrypt bytes).2 := by
  induction bytes generalizing g with
  | nil => exact reaches
  | cons b bytes ih => exact ih (reaches.decryptByte b)

theorem Reaches.key_eq (reaches : Reaches f g) : g.key = f.key := by
  induction reaches with
  | start => rfl
  | decryptByte b _ ih => exact ih
  | reset _ ih => exact ih

theorem Reaches.position_lt (reaches : Reaches f g) (fresh : f.position = 0) :
    g.position < g.key.length := by
  have someKey (g : KeyFilter) : 0 < g.key.length := List.length_pos_iff.mpr g.key_ne_nil
  cases reaches with
  | start =>
    rw [fresh]
    exact someKey f
  | @decryptByte g b => exact Nat.mod_lt _ (someKey g)
  | @reset g => exact someKey g

theorem Reaches.reset_eq (reaches : Reaches f g) (fresh : f.position = 0) : g.reset = f := by
  obtain ⟨key, position, someKey⟩ := f
  obtain ⟨key', position', someKey'⟩ := g
  cases reaches.key_eq
  cases fresh
  rfl

theorem decryptByte_decryptByte (f : KeyFilter) (b : UInt8) :
    f.decryptByte (f.decryptByte b).1 = (b, (f.decryptByte b).2) := by
  simp only [decryptByte, UInt8.xor_assoc, UInt8.xor_self, UInt8.xor_zero]

theorem decrypt_decrypt (f : KeyFilter) (bytes : List UInt8) :
    f.decrypt (f.decrypt bytes).1 = (bytes, (f.decrypt bytes).2) := by
  induction bytes generalizing f with
  | nil => rfl
  | cons b bytes ih =>
    simp only [decrypt, decryptEach] at ih ⊢
    simp only [decryptByte_decryptByte, ih]

theorem position_decrypt (within : f.position < f.key.length) (bytes : List UInt8) :
    (f.decrypt bytes).2.position = (f.position + bytes.length) % f.key.length := by
  induction bytes generalizing f with
  | nil => exact (Nat.mod_eq_of_lt within).symm
  | cons b bytes ih =>
    have next : (f.decryptByte b).2.position < (f.decryptByte b).2.key.length :=
      Nat.mod_lt _ (Nat.zero_lt_of_lt within)
    calc ((f.decryptByte b).2.decrypt bytes).2.position
        = ((f.position + 1) % f.key.length + bytes.length) % f.key.length := ih next
      _ = (f.position + (b :: bytes).length) % f.key.length := by
        rw [Nat.mod_add_mod, List.length_cons, Nat.add_assoc, Nat.add_comm 1]

theorem getElem?_decrypt (within : f.position < f.key.length) (bytes : List UInt8) (i : Nat) :
    (f.decrypt bytes).1[i]? =
      bytes[i]?.map (· ^^^ f.key.getD ((f.position + i) % f.key.length) 0) := by
  induction bytes generalizing f i with
  | nil => rfl
  | cons b bytes ih =>
    cases i with
    | zero =>
      change some _ = some _
      rw [Nat.add_zero, Nat.mod_eq_of_lt within]
    | succ i =>
      have next : (f.decryptByte b).2.position < (f.decryptByte b).2.key.length :=
        Nat.mod_lt _ (Nat.zero_lt_of_lt within)
      have place : ((f.position + 1) % f.key.length + i) % f.key.length =
          (f.position + (i + 1)) % f.key.length := by
        rw [Nat.mod_add_mod, Nat.add_assoc, Nat.add_comm 1]
      have later := ih next i
      simp only [decryptByte, place] at later
      simpa only [decrypt, decryptEach, decryptByte, List.getElem?_cons_succ] using later

end KeyFilter

/-- Reads pieces of the sizes given, one after the other. -/
def ByteSource.readEach {β : Type} [ByteSource β] : List Nat → β → List (List UInt8) × β
  | [], s => ([], s)
  | n :: sizes, s =>
    let (piece, s) := read s n
    let (pieces, s) := readEach sizes s
    (piece :: pieces, s)

section

variable {β φ : Type} [ByteSource β] [CryptoFilter φ]

theorem ByteSource.readEach_append_content (sizes : List Nat) (s : β) :
    (readEach sizes s).1.flatten ++ content (readEach sizes s).2 = content s := by
  induction sizes generalizing s with
  | nil => rfl
  | cons n sizes ih =>
    have rest := ih (read s n).2
    simp only [readEach, List.flatten_cons, List.append_assoc]
    rw [rest, read_append_content]

namespace DecryptedStream

open ByteSource (content readEach Steady)

theorem readEach_eq (sizes : List Nat) (s : DecryptedStream β φ) :
    ((readEach sizes s).1.flatten, (readEach sizes s).2.filter) =
      CryptoFilter.decrypt s.filter (readEach sizes s.inner).1.flatten := by
  induction sizes generalizing s with
  | nil => exact (CryptoFilter.decrypt_nil s.filter).symm
  | cons n sizes ih =>
    have rest := ih (ByteSource.read s n).2
    simp only [readEach, List.flatten_cons, CryptoFilter.decrypt_append, Prod.ext_iff] at rest ⊢
    exact ⟨congrArg _ rest.1, rest.2⟩

theorem steady (gives : Steady β) : Steady (DecryptedStream β φ) := by
  intro s n asked more
  have someLeft : content s.inner ≠ [] := by
    intro none
    have empty : content s = (CryptoFilter.decrypt s.filter (content s.inner)).1 := rfl
    rw [none, CryptoFilter.decrypt_nil] at empty
    exact more empty
  have read := List.length_pos_iff.mpr (gives s.inner n asked someLeft)
  rw [← CryptoFilter.length_decrypt s.filter] at read
  exact List.length_pos_iff.mp read

end DecryptedStream

theorem StreamFilter.decrypt_ofFilter (f : φ) (bytes : List UInt8) :
    ((ofFilter f).decrypt bytes).1 = (CryptoFilter.decrypt f bytes).1 :=
  List.drop_zero

/-- A cipher that has been registered is found by its name in any case, and files are decrypted by the filters
that it makes. -/
theorem CipherCatalog.decryptFile_register (catalog : CipherCatalog) {name spelling : String}
    {kind : List String → Except CipherFault φ} {parameters : List String} {f : φ}
    (same : Text.lowercase spelling = Text.lowercase name) (makes : kind parameters = .ok f) :
    ∃ cipher, (catalog.register name kind).resolve spelling parameters = .ok cipher ∧
      ∀ bytes, Cipher.decryptFile (some cipher) bytes = .ok (CryptoFilter.decrypt f bytes).1 := by
  let own : CipherKind := fun parameters => (kind parameters).map .ofFilter
  have accepts : own parameters = .ok (.ofFilter f) := by
    simp only [own, makes]
    rfl
  refine ⟨⟨spelling, parameters, own⟩, ?_, fun bytes => ?_⟩
  · have found : (catalog.register name kind).kinds.lookup (Text.lowercase spelling) = some own := by
      rw [same]
      exact List.lookup_cons_self
    simp only [resolve, found, accepts]
  · simp only [Cipher.decryptFile, Cipher.newFilter, accepts]
    exact congrArg Except.ok (StreamFilter.decrypt_ofFilter f bytes)

end

namespace KeyFilter

open ByteSource (content readEach Steady)

theorem ofSeed_eq_ok {seed : String} (nonempty : seed ≠ "") :
    ∃ f, ofSeed seed = .ok f ∧ f.key = Utf8.encode seed.toList ∧ f.position = 0 := by
  have someKey : Utf8.encode seed.toList ≠ [] := by
    intro none
    cases chars : seed.toList with
    | nil => exact nonempty (String.toList_eq_nil_iff.mp chars)
    | cons c chars' =>
      rw [chars, Utf8.encode_cons] at none
      exact String.utf8EncodeChar_ne_nil (List.append_eq_nil_iff.mp none).1
  exact ⟨⟨Utf8.encode seed.toList, 0, someKey⟩, dif_neg someKey, rfl, rfl⟩

section

variable {β : Type} [ByteSource β] {f : KeyFilter} {plain : List UInt8} {inner : β}

theorem readEach_decrypted (inner : β) (sizes : List Nat) :
    ((readEach sizes (DecryptedStream.mk inner f)).1.flatten,
        (readEach sizes (DecryptedStream.mk inner f)).2.filter) =
      f.decrypt (readEach sizes inner).1.flatten :=
  DecryptedStream.readEach_eq sizes (DecryptedStream.mk inner f)

theorem content_decrypted (encrypted : content inner = (f.decrypt plain).1) :
    content (DecryptedStream.mk inner f) = plain := by
  change (f.decrypt (content inner)).1 = plain
  rw [encrypted, decrypt_decrypt]

/-- The bytes read in pieces are the first ones of the plain text. -/
theorem readEach_eq_take (encrypted : content inner = (f.decrypt plain).1) (sizes : List Nat) :
    (readEach sizes (DecryptedStream.mk inner f)).1.flatten =
      plain.take (readEach sizes (DecryptedStream.mk inner f)).1.flatten.length := by
  have whole := ByteSource.readEach_append_content sizes (DecryptedStream.mk inner f)
  rw [content_decrypted encrypted] at whole
  exact List.prefix_iff_eq_take.mp ⟨_, whole⟩

/-- Each byte is decrypted with the byte of the key that belongs to its place in the stream. -/
theorem getElem?_readEach (inner : β) (fresh : f.position = 0) (sizes : List Nat) (i : Nat)
    (inside : i < (readEach sizes (DecryptedStream.mk inner f)).1.flatten.length) :
    ∃ c, (content inner)[i]? = some c ∧
      (readEach sizes (DecryptedStream.mk inner f)).1.flatten[i]? =
        some (c ^^^ f.key.getD (i % f.key.length) 0) := by
  have within := Reaches.start.position_lt fresh
  have whole := congrArg Prod.fst (readEach_decrypted (f := f) inner sizes)
  simp only at whole
  rw [whole, length_decrypt] at inside
  refine ⟨(readEach sizes inner).1.flatten[i], ?_, ?_⟩
  · rw [← ByteSource.readEach_append_content sizes inner, List.getElem?_append_left inside,
      List.getElem?_eq_getElem inside]
  · rw [whole, getElem?_decrypt within, fresh, Nat.zero_add, List.getElem?_eq_getElem inside]
    rfl

theorem filter_readEach (inner : β) (fresh : f.position = 0) (sizes : List Nat) :
    Reaches f (readEach sizes (DecryptedStream.mk inner f)).2.filter ∧
      (readEach sizes (DecryptedStream.mk inner f)).2.filter.position =
        (readEach sizes (DecryptedStream.mk inner f)).1.flatten.length % f.key.length := by
  obtain ⟨bytes, filter⟩ := Prod.ext_iff.mp (readEach_decrypted (f := f) inner sizes)
  simp only at bytes filter
  rw [filter, bytes, length_decrypt, position_decrypt (Reaches.start.position_lt fresh), fresh,
    Nat.zero_add]
  exact ⟨Reaches.start.decrypt _, rfl⟩

theorem transcript_decrypted (steady : Steady β) (encrypted : content inner = (f.decrypt plain).1)
    {capacity : Nat} (room : 0 < capacity) (n : Nat) :
    LineSource.transcript n (BufferedLines.ofStream (DecryptedStream.mk inner f) capacity) =
      LineSource.transcript n (ByteLines.ofBytes plain) := by
  rw [BufferedLines.transcript_ofStream (DecryptedStream.steady steady) room,
    content_decrypted encrypted]

end

/-- An encrypted stream gives the plain text in whatever pieces it is read, and the same lines. -/
theorem decrypts_in_pieces (seed : String) (nonempty : seed ≠ "") :
    ∃ f, ofSeed seed = .ok f ∧ f.key = Utf8.encode seed.toList ∧
      (∀ g, Reaches f g → g.position < g.key.length ∧ g.reset = f) ∧
      ∀ (plain : List UInt8) (β : Type) [ByteSource β] (inner : β),
        content inner = (f.decrypt plain).1 →
        (∀ sizes pieces rest, readEach sizes (DecryptedStream.mk inner f) = (pieces, rest) →
          pieces.flatten = plain.take pieces.flatten.length ∧
            (∀ i < pieces.flatten.length, ∃ c, (f.decrypt plain).1[i]? = some c ∧
              pieces.flatten[i]? = some (c ^^^ f.key.getD (i % f.key.length) 0)) ∧
            Reaches f rest.filter ∧
            rest.filter.position = pieces.flatten.length % f.key.length) ∧
        (Steady β → ∀ (γ : Type) [ByteSource γ] (text : γ), Steady γ → content text = plain →
          ∀ capacity, 0 < capacity → ∀ n,
            LineSource.transcript n
                (BufferedLines.ofStream (DecryptedStream.mk inner f) capacity) =
              LineSource.transcript n (BufferedLines.ofStream text capacity)) := by
  obtain ⟨f, made, key, fresh⟩ := ofSeed_eq_ok nonempty
  refine ⟨f, made, key, ?states, ?_⟩
  case states =>
    intro g reaches
    exact ⟨reaches.position_lt fresh, reaches.reset_eq fresh⟩
  intro plain β _ inner encrypted
  constructor
  · intro sizes pieces rest run
    have plainPrefix := readEach_eq_take encrypted sizes
    have keyBytes := getElem?_readEach inner fresh sizes
    have position := filter_readEach inner fresh sizes
    rw [run] at plainPrefix keyBytes position
    rw [encrypted] at keyBytes
    exact ⟨plainPrefix, keyBytes, position⟩
  · intro steady γ _ text steady' shown capacity room n
    rw [transcript_decrypted steady encrypted room,
      BufferedLines.transcript_ofStream steady' room, shown]

structure Trickle where
  rest : List UInt8

instance : ByteSource Trickle where
  read s n := (s.rest.take (min n 1), ⟨s.rest.drop (min n 1)⟩)
  content := Trickle.rest
  length_read_le s n := by
    rw [List.length_take]
    omega
  read_append_content s n := List.take_append_drop _ s.rest

theorem steady_trickle : Steady Trickle := by
  intro s n asked more
  have one : min n 1 = 1 := by omega
  change s.rest.take (min n 1) ≠ []
  rw [one]
  cases rest : s.rest with
  | nil => exact absurd rest more
  | cons b bytes => exact List.cons_ne_nil b _

theorem steady_bytes : Steady (List UInt8) := by
  intro s n asked more
  cases s with
  | nil => exact absurd rfl more
  | cons b bytes =>
    obtain ⟨n, rfl⟩ := Nat.exists_eq_add_one.mpr asked
    exact List.cons_ne_nil b _

/-- The text "id\n1\n", encrypted and read one byte at a time. -/
theorem decrypts_in_pieces_key :
    "key" ≠ "" ∧ Steady Trickle ∧ ∃ f rest, ofSeed "key" = .ok f ∧
      readEach [4, 0, 1] (DecryptedStream.mk (Trickle.mk (f.decrypt [105, 100, 10, 49, 10]).1) f) =
        ([[105], [], [100]], rest) ∧
      rest.filter.position = 2 ∧
      LineSource.transcript 3 (BufferedLines.ofStream
        (DecryptedStream.mk (Trickle.mk (f.decrypt [105, 100, 10, 49, 10]).1) f) 8) =
        [(.ok (some "id"), 1), (.ok (some "1"), 2), (.ok none, 2)] := by
  obtain ⟨f, made, key, states, pieces⟩ := decrypts_in_pieces "key" (by decide)
  have same : f = ⟨Utf8.encode "key".toList, 0, by decide⟩ := by
    have fresh := (states f .start).2
    rw [← fresh]
    simp only [reset, key]
  obtain ⟨bytes, lines⟩ := pieces [105, 100, 10, 49, 10] Trickle
    ⟨(f.decrypt [105, 100, 10, 49, 10]).1⟩ rfl
  obtain ⟨rest, run⟩ : ∃ rest, readEach [4, 0, 1]
      (DecryptedStream.mk (Trickle.mk (f.decrypt [105, 100, 10, 49, 10]).1) f) =
        ([[105], [], [100]], rest) := by
    rw [same]
    refine ⟨_, Prod.ext ?_ rfl⟩
    decide
  have position : rest.filter.position = 2 % f.key.length := (bytes _ _ _ run).2.2.2
  have plain := lines steady_trickle (List UInt8) [105, 100, 10, 49, 10] steady_bytes rfl 8
    (by decide) 3
  refine ⟨by decide, steady_trickle, f, rest, made, run, ?_, ?_⟩
  · rw [position, key]
    decide
  · rw [plain]
    rfl

end KeyFilter

end PlainTables
