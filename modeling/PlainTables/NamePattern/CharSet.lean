/-!
# Sets of characters

A set of characters is a list of inclusive ranges of code points in increasing order that do not
touch each other; the code points that are no characters are in none of them. Every set is written
in one way only.
-/

namespace PlainTables

structure CharSet where
  ranges : List (Nat × Nat)
deriving DecidableEq

namespace CharSet

def contains (s : CharSet) (c : Char) : Bool :=
  s.ranges.any fun r => r.1 ≤ c.toNat && c.toNat ≤ r.2

def nothing : CharSet := ⟨[]⟩

/-- Puts a range before ranges that begin no earlier, joined with those that it touches. -/
def join (r : Nat × Nat) : List (Nat × Nat) → List (Nat × Nat)
  | [] => [r]
  | s :: rest => if s.1 ≤ r.2 + 1 then join (r.1, max r.2 s.2) rest else r :: join s rest

def joined : List (Nat × Nat) → List (Nat × Nat)
  | [] => []
  | r :: rest => join r rest

/-- The parts of a range on both sides of the code points that are no characters. -/
def charParts (r : Nat × Nat) : List (Nat × Nat) :=
  [(r.1, min r.2 0xd7ff), (max r.1 0xe000, r.2)].filter fun r => r.1 ≤ r.2

def ofRanges (rs : List (Nat × Nat)) : CharSet :=
  ⟨joined ((rs.flatMap charParts).mergeSort fun r s => r.1 ≤ s.1)⟩

def range (first last : Char) : CharSet :=
  ofRanges [(first.toNat, last.toNat)]

def single (c : Char) : CharSet := range c c

def union (s t : CharSet) : CharSet :=
  ⟨joined (s.ranges.merge t.ranges fun r s => r.1 ≤ s.1)⟩

/-- The ranges between those of a list, from a code point on. -/
def gaps (start : Nat) : List (Nat × Nat) → List (Nat × Nat)
  | [] => [(start, 0x10ffff)]
  | r :: rest => (start, r.1 - 1) :: gaps (r.2 + 1) rest

def complement (s : CharSet) : CharSet :=
  let between := match s.ranges with
    | (0, last) :: rest => gaps (last + 1) rest
    | rs => gaps 0 rs
  ⟨between.flatMap charParts⟩

def intersection (s t : CharSet) : CharSet :=
  (s.complement.union t.complement).complement

def difference (s t : CharSet) : CharSet :=
  s.intersection t.complement

def symmetricDifference (s t : CharSet) : CharSet :=
  (s.difference t).union (t.difference s)

def single? (s : CharSet) : Option Char :=
  match s.ranges with
  | [(first, last)] => if first = last then some (Char.ofNat first) else none
  | _ => none

def isBasicLatin (s : CharSet) : Bool :=
  s.ranges.all fun r => r.2 < 128

end CharSet

end PlainTables
