/-!
# Double precision numbers

Numbers of the binary64 format. A magnitude is kept as its rank, the place that it takes when all
magnitudes are listed from zero to infinity, so that comparing numbers is comparing ranks. Values are
exact multiples of the smallest positive number, its unit; arithmetic computes exactly in units and
rounds once, to the nearest rank and in a tie to the even one.
-/

namespace PlainTables

/-- The number of magnitudes in a binade, between a power of two and the next. -/
def binade : Nat := Nat.pow 2 52

/-- The rank of infinity: 2047 binades lie below it. -/
def infinityRank : Nat := 2047 * binade

def unitsOfOne : Nat := Nat.pow 2 1074

/-- A binary64 number. The two zeros differ in their sign; all undefined results are one `nan`. -/
inductive Double where
  | nan
  | number (negative : Bool) (rank : Nat) (le_infinity : rank ≤ infinityRank)
deriving DecidableEq

namespace Double

def units (rank : Nat) : Nat :=
  if rank < binade then rank
  else (binade + rank % binade) * Nat.pow 2 (rank / binade - 1)

/-- The integer nearest to `p / q`, in a tie the even one. -/
def roundHalfEven (p q : Nat) : Nat :=
  let d := p / q
  let r := p % q
  if 2 * r < q then d
  else if q < 2 * r then d + 1
  else if d % 2 = 0 then d else d + 1

/-- The rank nearest to `p / q` units; what is too large becomes infinity. -/
def roundUnits (p q : Nat) : Nat :=
  let scale := (p / q).log2 - 52
  min infinityRank (scale * binade + roundHalfEven p (q * Nat.pow 2 scale))

theorem roundUnits_le (p q : Nat) : roundUnits p q ≤ infinityRank :=
  Nat.min_le_left _ _

def ofUnits (negative : Bool) (p q : Nat) : Double :=
  .number negative (roundUnits p q) (roundUnits_le p q)

def zero : Double := .number false 0 (Nat.zero_le _)

def infinity (negative : Bool) : Double := .number negative infinityRank (Nat.le_refl _)

def ofInt (i : Int) : Double :=
  ofUnits (i < 0) (i.natAbs * unitsOfOne) 1

/-- The number nearest to `digits * 10 ^ exponent`. Magnitudes far outside the range of the format
are settled by their number of digits alone. -/
def ofDecimal (negative : Bool) (digits : Nat) (exponent : Int) : Double :=
  let size := (Nat.toDigits 10 digits).length + exponent
  if digits = 0 ∨ size < -400 then .number negative 0 (Nat.zero_le _)
  else if 400 < size then infinity negative
  else match exponent with
    | .ofNat e => ofUnits negative (digits * Nat.pow 10 e * unitsOfOne) 1
    | .negSucc e => ofUnits negative (digits * unitsOfOne) (Nat.pow 10 (e + 1))

def isFinite : Double → Bool
  | nan => false
  | number _ r _ => r < infinityRank

/-- The signed rank, which orders the numbers and is zero for both zeros. -/
def signedRank (negative : Bool) (rank : Nat) : Int :=
  if negative then -rank else rank

def compare? : Double → Double → Option Ordering
  | number a x _, number b y _ => some (compare (signedRank a x) (signedRank b y))
  | _, _ => none

def signedUnits (negative : Bool) (rank : Nat) : Int :=
  if negative then -(units rank : Int) else units rank

def add : Double → Double → Double
  | number a x hx, number b y hy =>
    if x = infinityRank then
      if y = infinityRank ∧ a ≠ b then nan else number a x hx
    else if y = infinityRank then number b y hy
    else
      let s := signedUnits a x + signedUnits b y
      if s = 0 then number (a && b) 0 (Nat.zero_le _)
      else ofUnits (s < 0) s.natAbs 1
  | _, _ => nan

def div : Double → Double → Double
  | number a x _, number b y _ =>
    let negative := a != b
    if x = infinityRank then
      if y = infinityRank then nan else infinity negative
    else if y = infinityRank then number negative 0 (Nat.zero_le _)
    else if y = 0 then
      if x = 0 then nan else infinity negative
    else ofUnits negative (units x * unitsOfOne) (units y)
  | _, _ => nan

/-- The number with its fraction cut off, kept inside the 64-bit range; zero for `nan`. -/
def toInt64 : Double → Int64
  | nan => 0
  | number negative r _ =>
    if r = infinityRank then if negative then Int64.minValue else Int64.maxValue
    else
      let whole : Int := units r / unitsOfOne
      let i := if negative then -whole else whole
      Int64.ofInt (max Int64.minValue.toInt (min Int64.maxValue.toInt i))

/-- The nearest integer, half of one going up in magnitude, kept between zero and the largest count of
64 bits; zero for `nan`. -/
def roundToCount : Double → UInt64
  | nan => 0
  | number negative r _ =>
    if negative then 0
    else if r = infinityRank then UInt64.ofNat (UInt64.size - 1)
    else UInt64.ofNat (min (UInt64.size - 1) ((2 * units r + unitsOfOne) / (2 * unitsOfOne)))

end Double

end PlainTables
