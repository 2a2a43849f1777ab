import SketchHelp.Text.CodePoint

/-!
Numbers with a fraction, as tree data may hold them where an offset or a name is
expected. A number is kept as its sixty-four bits, so that everything said about it
is exact arithmetic on whole numbers.

Its text has the fewest digits that read back as the same number and, of those, the
ones nearest to it. For each count of digits the two points of the decimal grid next
to the number are tried; the first count at which one of them lies in the interval
that rounds to the number wins.
-/

namespace SketchHelp

/-- A binary64 number by its bits. -/
structure Double where
  bits : UInt64
  deriving DecidableEq, Repr

namespace Double

/-- The weight of the sign bit. -/
def signWeight : Nat := 0x8000000000000000

/-- The weight of the lowest exponent bit, and so of the leading one that is not
stored. -/
def leadingOne : Nat := 0x10000000000000

def isNegative (x : Double) : Bool :=
  signWeight ≤ x.bits.toNat

def biasedExponent (x : Double) : Nat :=
  x.bits.toNat / leadingOne % 2048

def fraction (x : Double) : Nat :=
  x.bits.toNat % leadingOne

def isInfinite (x : Double) : Bool :=
  x.biasedExponent = 2047 && x.fraction = 0

def isNaN (x : Double) : Bool :=
  x.biasedExponent = 2047 && x.fraction ≠ 0

def isZero (x : Double) : Bool :=
  x.biasedExponent = 0 && x.fraction = 0

/-- The whole number that is scaled by `2 ^ exponent`. -/
def mantissa (x : Double) : Nat :=
  if x.biasedExponent = 0 then x.fraction else leadingOne + x.fraction

def exponent (x : Double) : Int :=
  if x.biasedExponent = 0 then -1074 else x.biasedExponent - 1075

/-- Magnitude of a finite number with its fraction dropped. -/
def wholePart (x : Double) : Nat :=
  if 0 ≤ x.exponent then x.mantissa <<< x.exponent.toNat
  else x.mantissa >>> (-x.exponent).toNat

/-- A finite number rounded toward zero. -/
def truncate (x : Double) : Int :=
  if x.isNegative then -(x.wholePart : Int) else x.wholePart

/-! ## Shortest text -/

/-- `base ^ k` as a numerator and a denominator. -/
def power (base : Nat) (k : Int) : Nat × Nat :=
  if 0 ≤ k then (base.pow k.toNat, 1) else (1, base.pow (-k).toNat)

def digitCount (n : Nat) : Nat :=
  (Nat.toDigits 10 n).length

/-- The `p` with `10 ^ p ≤ numerator / denominator < 10 ^ (p + 1)`. -/
def decimalExponent (numerator denominator : Nat) : Int :=
  if denominator ≤ numerator then digitCount (numerator / denominator) - 1
  else -digitCount ((denominator - 1) / numerator)

/-- The interval that rounds to a number, and the number, as multiples of a quarter
of its last binary place: low end, number, high end. -/
def quarters (x : Double) : Nat × Nat × Nat :=
  let m := 4 * x.mantissa
  (if x.fraction = 0 ∧ 1 < x.biasedExponent then m - 1 else m - 2, m, m + 2)

/-- The point of the grid `10 ^ k` that lies in the interval of `x`, the nearer one if
both neighbours do, and of two equally near ones the even one. -/
def gridPoint? (x : Double) (k : Int) : Option Nat :=
  let (low, middle, high) := x.quarters
  let (up, down) := power 2 (x.exponent - 2)
  let (tenUp, tenDown) := power 10 k
  let scale := up * tenDown
  let unit := down * tenUp
  let inside := fun d =>
    if x.mantissa % 2 = 0 then low * scale ≤ d * unit ∧ d * unit ≤ high * scale
    else low * scale < d * unit ∧ d * unit < high * scale
  let below := middle * scale / unit
  let above := below + 1
  let belowGap := middle * scale - below * unit
  let aboveGap := above * unit - middle * scale
  if inside below ∧ (¬ inside above ∨ belowGap < aboveGap ∨
      (belowGap = aboveGap ∧ below % 2 = 0)) then some below
  else if inside above then some above
  else none

/-- Digits and grid exponent for the first count of digits, `count` or more, that
reads back; `fuel` counts are tried. -/
def shortestFrom (x : Double) (p : Int) (count : Nat) : (fuel : Nat) → Nat × Int
  | 0 => (0, 0)
  | fuel + 1 =>
    match x.gridPoint? (p + 1 - count) with
    | some d => (d, p + 1 - count)
    | none => shortestFrom x p (count + 1) fuel

/-- Significant digits of a nonzero finite number, and the exponent of the first. -/
def shortest (x : Double) : List Char × Int :=
  let (up, down) := power 2 x.exponent
  let (d, k) := shortestFrom x (decimalExponent (x.mantissa * up) down) 1 17
  let digits := Nat.toDigits 10 d
  ((digits.reverse.dropWhile (· = '0')).reverse, k + (digits.length - 1))

/-- Positional notation with at least one digit on each side of the point. -/
def positional (digits : List Char) (p : Int) : List Char :=
  if p < 0 then '0' :: '.' :: (List.replicate (-p - 1).toNat '0' ++ digits)
  else
    let whole := p.toNat + 1
    let padded := digits ++ List.replicate (whole - digits.length) '0'
    let rest := digits.drop whole
    padded.take whole ++ '.' :: (if rest.isEmpty then ['0'] else rest)

/-- One digit, the others after a point, and an exponent of two digits or more. -/
def scientific (digits : List Char) (p : Int) : List Char :=
  let exponent := Nat.toDigits 10 p.natAbs
  digits.take 1 ++ (if digits.length ≤ 1 then [] else '.' :: digits.drop 1) ++
    'e' :: (if p < 0 then '-' else '+') ::
      (List.replicate (2 - exponent.length) '0' ++ exponent)

/-- Positional from `0.0001` up to sixteen digits before the point, scientific beyond. -/
def magnitude (x : Double) : List Char :=
  if x.isInfinite then ['i', 'n', 'f']
  else if x.isZero then ['0', '.', '0']
  else
    let (digits, p) := x.shortest
    if -4 ≤ p ∧ p < 16 then positional digits p else scientific digits p

def toText (x : Double) : Text :=
  if x.isNaN then Text.ofString "nan"
  else (if x.isNegative then '-' :: x.magnitude else x.magnitude).map CodePoint.ofChar

end Double

end SketchHelp
