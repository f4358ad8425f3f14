import PlainTables.Double

/-!
# Decimal text of double precision numbers

Reading of decimal numerals with fraction and exponent, and writing with the fewest digits that read
back as the same number.
-/

namespace PlainTables.Double

def splitSign : List Char → Bool × List Char
  | '+' :: s => (false, s)
  | '-' :: s => (true, s)
  | s => (false, s)

/-- The exponent of a numeral: nothing, or a letter `e` and a signed integer. -/
def readExponent? : List Char → Option Int
  | [] => some 0
  | c :: s =>
    let (negative, ds) := splitSign s
    if (c = 'e' || c = 'E') && !ds.isEmpty && ds.all Char.isDigit then
      let n : Int := Nat.ofDigitChars 10 ds 0
      some (if negative then -n else n)
    else none

/-- The number nearest to a numeral. There is a digit before or after the point. -/
def read? (s : List Char) : Option Double :=
  let (negative, s) := splitSign s
  let whole := s.takeWhile Char.isDigit
  let rest := s.dropWhile Char.isDigit
  let (fraction, rest) := match rest with
    | '.' :: r => (r.takeWhile Char.isDigit, r.dropWhile Char.isDigit)
    | r => ([], r)
  if whole.isEmpty && fraction.isEmpty then none
  else (readExponent? rest).map fun e =>
    ofDecimal negative (Nat.ofDigitChars 10 (whole ++ fraction) 0) (e - fraction.length)

/-- The number that a word stands for, in any case of its letters. -/
def ofWord? (s : List Char) : Option Double :=
  let (negative, s) := splitSign s
  let word := String.ofList (s.map Char.toLower)
  if word = "nan" then some nan
  else if word = "inf" ∨ word = "infinity" then some (infinity negative)
  else none

/-- The decimal `digits * 10 ^ exponent`. -/
structure Decimal where
  digits : Nat
  exponent : Int
deriving DecidableEq

/-- The same decimal without zeros at the end of its digits. -/
def Decimal.normalize (d : Decimal) : Decimal :=
  if _h : d.digits = 0 then ⟨0, 0⟩
  else if d.digits % 10 = 0 then normalize ⟨d.digits / 10, d.exponent + 1⟩
  else d
termination_by d.digits

def Decimal.reads (d : Decimal) (rank : Nat) : Bool :=
  match ofDecimal false d.digits d.exponent with
  | number _ r _ => r = rank
  | nan => false

def exact (rank : Nat) : Decimal :=
  ⟨units rank * Nat.pow 5 1074, -1074⟩

/-- How many digits a magnitude above zero has before the point; less than one if it starts with
zeros after the point. -/
def wholeDigits (rank : Nat) : Int :=
  (Nat.toDigits 10 (units rank * Nat.pow 10 400 / unitsOfOne)).length - 400

/-- What a writer takes when two decimals are equally near; it is asked with the lower one. -/
abbrev TieRule := Nat → Bool

/-- The nearer of the two multiples of `10 ^ exponent` around a magnitude that read back, if any. -/
def nearestOn (up : TieRule) (rank : Nat) (exponent : Int) : Option Decimal :=
  let p := units rank * Nat.pow 10 (-exponent).toNat
  let q := unitsOfOne * Nat.pow 10 exponent.toNat
  let low : Decimal := ⟨p / q, exponent⟩
  let high : Decimal := ⟨p / q + 1, exponent⟩
  match low.reads rank, high.reads rank with
  | false, false => none
  | true, false => some low
  | false, true => some high
  | true, true =>
    let r := 2 * (p % q)
    some (if r < q then low else if q < r || up low.digits then high else low)

/-- The decimal with the fewest digits that reads back, and of these the nearest. -/
def shortest (up : TieRule) (rank : Nat) : Decimal :=
  let size := wholeDigits rank
  (((List.range 17).findSome? fun n => nearestOn up rank (size - (n + 1 : Nat))).getD (exact rank)).normalize

def Decimal.positional (d : Decimal) : List Char :=
  let ds := Nat.toDigits 10 d.digits
  let places := (-d.exponent).toNat
  if places = 0 then ds ++ List.replicate d.exponent.toNat '0'
  else if places < ds.length then
    ds.take (ds.length - places) ++ '.' :: ds.drop (ds.length - places)
  else '0' :: '.' :: (List.replicate (places - ds.length) '0' ++ ds)

def isWhole (rank : Nat) : Bool :=
  units rank % unitsOfOne = 0

/-- The magnitude of a finite number: whole numbers below `10 ^ 15` with one place, others with the
fewest digits that read back and never with an exponent. -/
def magnitudeText (rank : Nat) : List Char :=
  let whole := units rank / unitsOfOne
  if isWhole rank && whole < Nat.pow 10 15 then Nat.toDigits 10 whole ++ ['.', '0']
  else (shortest (fun _ => true) rank).positional

/-- The text of a number in which whole numbers have no fraction. -/
def plainText : Double → List Char
  | nan => "NaN".toList
  | number negative rank _ =>
    let magnitude :=
      if rank = infinityRank then "inf".toList else (shortest (fun _ => true) rank).positional
    if negative then '-' :: magnitude else magnitude

def text : Double → List Char
  | nan => "NaN".toList
  | number negative rank _ =>
    let magnitude := if rank = infinityRank then "inf".toList else magnitudeText rank
    if negative then '-' :: magnitude else magnitude

end PlainTables.Double
