import PlainTables.NamePattern

/-!
# Storage of a pattern

How much storage the steps take that match a pattern byte by byte in UTF-8, forwards and backwards.
Patterns that take more than a limit are not accepted, so that a short pattern cannot stand for an
enormous one.
-/

namespace PlainTables

namespace CharSet

abbrev ByteRanges := List (Nat × Nat)

/-- The ranges of the last bytes of an encoding, with six bits in each, for the numbers between two
bounds. -/
def tailRanges : Nat → Nat → Nat → List ByteRanges
  | 0, _, _ => [[]]
  | n + 1, low, high =>
    let block := Nat.pow 64 n
    let lead (first last : Nat) : Nat × Nat := (0x80 + first, 0x80 + last)
    let first := low / block
    let last := high / block
    if first = last then
      (tailRanges n (low % block) (high % block)).map (lead first first :: ·)
    else
      let startsInside := low % block ≠ 0
      let endsInside := high % block ≠ block - 1
      let front :=
        if startsInside then
          (tailRanges n (low % block) (block - 1)).map (lead first first :: ·)
        else []
      let back :=
        if endsInside then (tailRanges n 0 (high % block)).map (lead last last :: ·) else []
      let middleFirst := if startsInside then first + 1 else first
      let middleLast := if endsInside then last - 1 else last
      let middle :=
        if middleFirst ≤ middleLast then
          [lead middleFirst middleLast :: List.replicate n (0x80, 0xbf)]
        else []
      front ++ middle ++ back

/-- The mark in the first byte of an encoding of this many bytes, in place of the one of a later
byte. -/
def leadMark : Nat → Nat
  | 1 => 0
  | 2 => 0xc0
  | 3 => 0xe0
  | _ => 0xf0

def byteRanges (r : Nat × Nat) : List ByteRanges :=
  let widths := [(1, 0, 0x7f), (2, 0x80, 0x7ff), (3, 0x800, 0xffff), (4, 0x10000, 0x10ffff)]
  widths.flatMap fun (n, first, last) =>
    let low := max r.1 first
    let high := min r.2 last
    if high < low then []
    else if n = 1 then [[(low, high)]]
    else
      (tailRanges n low high).map fun
        | (a, b) :: rest => (a - 0x80 + leadMark n, b - 0x80 + leadMark n) :: rest
        | [] => []

def encodings (s : CharSet) : List ByteRanges :=
  s.ranges.flatMap byteRanges

def sharedLength : ByteRanges → ByteRanges → Nat
  | r :: rs, s :: ss => if r = s then sharedLength rs ss + 1 else 0
  | _, _ => 0

/-- The number of different beginnings of sequences, of which those that agree stand together. -/
def beginnings (before : ByteRanges) : List ByteRanges → Nat
  | [] => 0
  | s :: rest => s.length - sharedLength before s + beginnings s rest

def byFirst : List ByteRanges → List ((Nat × Nat) × List ByteRanges)
  | [] => []
  | [] :: rest => byFirst rest
  | (r :: s) :: rest =>
    match byFirst rest with
    | (r', group) :: groups =>
      if r = r' then (r, s :: group) :: groups else (r, [s]) :: (r', group) :: groups
    | [] => [(r, [s])]

/-- A place in the encodings of a set: the ranges of bytes and the places to which they lead. -/
abbrev BytePlace := List ((Nat × Nat) × Nat)

/-- The number of a place, which is added if it is not known; zero is the end. -/
def numberOf (place : BytePlace) (known : Array BytePlace) : Nat × Array BytePlace :=
  match known.findIdx? (· = place) with
  | some i => (i + 1, known)
  | none => (known.size + 1, known.push place)

/-- The number of the place from which these sequences lead to the end, with all places on the way;
a place stands once, however many ways there are to it. -/
def placesFrom : Nat → List ByteRanges → Array BytePlace → Nat × Array BytePlace
  | 0, _, known => (0, known)
  | n + 1, sequences, known =>
    match byFirst sequences with
    | [] => (0, known)
    | groups =>
      let (place, known) := groups.foldl (fun (place, known) (r, group) =>
        let (i, known) := placesFrom n group known
        (place ++ [(r, i)], known)) ([], known)
      numberOf place known

def storage (s : CharSet) (forwards : Bool) : Nat :=
  if s.isBasicLatin then 64 + 8 * s.ranges.length
  else
    let encodings := s.encodings
    if forwards then
      (placesFrom 4 encodings #[]).2.foldl (fun n place => n + 32 + 8 * place.length) 32
    else 64 + 4 * encodings.length + 32 * beginnings [] encodings

end CharSet

namespace NamePattern

def storage (forwards : Bool) : NamePattern → Nat
  | empty | look _ => 32
  | literal s => 32 * (s.foldl (fun n c => n + c.utf8Size) 0)
  | oneOf set => set.storage forwards
  | group _ p => p.storage forwards + if forwards then 64 else 0
  | sequence p q => p.storage forwards + q.storage forwards
  | choice p q =>
    let rest := match q with
      | choice .. => q.storage forwards
      | _ => q.storage forwards + 68
    p.storage forwards + 4 + rest
  | repetition p least most _ =>
    let once := p.storage forwards
    let exactly (n : Nat) := if n = 0 then 32 else n * once
    match most with
    | none =>
      if 0 < least then least * once + 40
      else if p.leastLength.any (0 < ·) then once + 40
      else once + 112
    | some most =>
      if least = 0 && most = 1 then once + 72
      else if least = most then exactly least
      else exactly least + 32 + (most - least) * (once + 40)

/-- The storage that is open to a pattern, in bytes. -/
def storageLimit : Nat := 10485760

/-- The pattern takes no more storage than is open to it, a match of the whole in a group. -/
def fitsStorage (p : NamePattern) : Bool :=
  p.storage true + 128 ≤ storageLimit && p.storage false + 64 ≤ storageLimit

end NamePattern

end PlainTables
