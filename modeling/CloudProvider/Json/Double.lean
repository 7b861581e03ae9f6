/-!
# Numbers with a fraction

A number that is no integer of 64 bits is kept as a double of IEEE 754, given by its bits. All
arithmetic on doubles goes through exact ratios of natural numbers and one rounding.

* `Double.ofRatio`: the double nearest to a ratio, ties going to the even one.
* `Double.scale`: a significand times a power of ten, in the roundings that reading a number makes.
* `Double.shortest`: the fewest decimal digits that read back as the same double.
* `Double.render`: its text.
-/

namespace CloudProvider

/-- A double, by its 64 bits. -/
structure Double where
  bits : UInt64
  deriving DecidableEq, Repr

namespace Double

/-! ## Magnitudes -/

/-- The bit of the sign. -/
def signBit : Nat := 0x8000000000000000

/-- The bit in front of the 52 bits of a significand, from which those of the exponent start. -/
def leadingBit : Nat := 0x10000000000000

/-- The magnitude of a double as `m` and `e`, standing for `m * 2 ^ (e - 1074)`. -/
def parts (x : Double) : Nat × Nat :=
  let n := x.bits.toNat % signBit
  if n < leadingBit then (n, 0) else (n % leadingBit + leadingBit, n / leadingBit - 1)

def isNegative (x : Double) : Bool := signBit ≤ x.bits.toNat

def isZero (x : Double) : Bool := x.bits.toNat % signBit = 0

/-- Whether a double is too large to be a number. -/
def isInfinite (x : Double) : Bool := 0x7FF * leadingBit ≤ x.bits.toNat % signBit

/-- The magnitude of a double as a ratio. -/
def ratio (x : Double) : Nat × Nat :=
  (x.parts.1 <<< x.parts.2, 1 <<< 1074)

/-- The double with the same magnitude below zero. -/
def negate (x : Double) : Double := ⟨x.bits ^^^ 0x8000000000000000⟩

/-- The quotient of two numbers to the nearest one, a half going to the even neighbour. -/
def roundDiv (num den : Nat) : Nat :=
  let q := num / den
  let r := num % den
  if 2 * r < den then q else if 2 * r = den then q + q % 2 else q + 1

/-- The power of two, from 0 for the least one, that a significand of 53 bits of `num / den` has. -/
def exponentOf (num den : Nat) : Nat :=
  let top := 1074 + Nat.log2 num - Nat.log2 den
  let top := if num <<< 1074 < den <<< top then top - 1 else top
  top - 52

/-- **The double nearest to `num / den`**, ties going to the one with an even significand; infinity
if the ratio is past the largest number. -/
def ofRatio (num den : Nat) : Double :=
  if num = 0 then ⟨0⟩
  else
    let e := exponentOf num den
    let m := roundDiv (num <<< 1074) (den <<< e)
    let n := if m < leadingBit then m else (e + 1) * leadingBit + (m - leadingBit)
    ⟨UInt64.ofNat (min n (0x7FF * leadingBit))⟩

/-! ## Reading -/

def mul (x y : Double) : Double :=
  ofRatio (x.ratio.1 * y.ratio.1) (x.ratio.2 * y.ratio.2)

/-- The quotient by a double that is not zero. -/
def div (x y : Double) : Double :=
  ofRatio (x.ratio.1 * y.ratio.2) (x.ratio.2 * y.ratio.1)

/-- The double nearest to a power of ten. -/
def powerOfTen (n : Nat) : Double := ofRatio (Nat.pow 10 n) 1

/-- A double divided by `10 ^ n`, at most 308 powers at a time. -/
def shrink (x : Double) (n : Nat) : Double :=
  if n ≤ 308 then x.div (powerOfTen n)
  else if x.isZero then x
  else shrink (x.div (powerOfTen 308)) (n - 308)
  termination_by n

/-- **A significand times a power of ten**: the significand is rounded first, then the product or
quotient with the rounded power. Nothing if the result is too large to be a number. -/
def scale (significand : Nat) (exponent : Int) : Option Double :=
  let x := ofRatio significand 1
  if exponent < 0 then some (x.shrink exponent.natAbs)
  else if exponent ≤ 308 then
    let y := x.mul (powerOfTen exponent.natAbs)
    if y.isInfinite then none else some y
  else if x.isZero then some x
  else none

/-! ## Writing -/

/-- The decimal exponent of `num / den`: the `k` with `10 ^ k ≤ num / den < 10 ^ (k + 1)`, searched
upwards from `k` in at most `steps` steps. -/
def decimalExponent (num den : Nat) (k : Int) : Nat → Int
  | 0 => k
  | steps + 1 =>
    let reached := if k + 1 < 0 then den ≤ num * Nat.pow 10 (k + 1).natAbs
      else den * Nat.pow 10 (k + 1).natAbs ≤ num
    if reached then decimalExponent num den (k + 1) steps else k

/-- The numerator and denominator of `num / (den * 10 ^ k)`. -/
def overPower (num den : Nat) (k : Int) : Nat × Nat :=
  if k < 0 then (num * Nat.pow 10 k.natAbs, den) else (num, den * Nat.pow 10 k.natAbs)

/-- The magnitudes that round to a double lie between these two ratios over one denominator:
half a unit below and half a unit above. -/
def bounds (x : Double) : Nat × Nat × Nat :=
  let (m, e) := x.parts
  let below := if m = leadingBit ∧ e ≠ 0 then 1 else 2
  ((4 * m - below) <<< e, (4 * m + 2) <<< e, 4 <<< 1074)

/-- Whether `digits * 10 ^ k` rounds to the magnitude of a double. -/
def readsBack (x : Double) (digits : Nat) (k : Int) : Bool :=
  let (low, high, den) := x.bounds
  let (num, one) := overPower digits 1 (-k)
  let inclusive := x.parts.1 % 2 = 0
  if inclusive then low * one ≤ num * den && num * den ≤ high * one
  else low * one < num * den && num * den < high * one

/-- The multiple of `10 ^ k` next to the magnitude of a double that reads back as it, if there is
one; of two the nearer. -/
def onGrid? (x : Double) (k : Int) : Option Nat :=
  let (num, den) := overPower x.ratio.1 x.ratio.2 k
  let below := num / den
  let nearest := roundDiv num den
  let other := if nearest = below then below + 1 else below
  if x.readsBack nearest k then some nearest
  else if x.readsBack other k then some other
  else none

/-- The digits and the power of ten of the coarsest grid, from `k` downwards, with a number that
reads back. -/
def searchGrid (x : Double) (k : Int) : Nat → Nat × Int
  | 0 => ((x.onGrid? k).getD 0, k)
  | finer + 1 =>
    match x.onGrid? k with
    | some digits => (digits, k)
    | none => searchGrid x (k - 1) finer

/-- **The fewest digits that read back**: `digits * 10 ^ k` rounds to the magnitude of the double,
and no decimal with fewer digits does. -/
def shortest (x : Double) : Nat × Int :=
  searchGrid x (decimalExponent x.ratio.1 x.ratio.2 (-325) 640) 17

/-- A number without the zeros at its end, and how many there were. -/
def stripZeros (n : Nat) : Nat × Nat :=
  if n % 10 = 0 ∧ n ≠ 0 then
    let (m, zeros) := stripZeros (n / 10)
    (m, zeros + 1)
  else (n, 0)
  termination_by n

/-- The text of a magnitude other than zero, from its digits and the power of ten of the last of
them. Numbers from `10 ^ -5` up to `10 ^ 16` are written positionally, others with an exponent. -/
def renderDigits (digits : List Char) (k : Int) : List Char :=
  let zeros (n : Int) : List Char := List.replicate n.toNat '0'
  let point : Int := digits.length + k
  if 0 ≤ k ∧ point ≤ 16 then digits ++ zeros k ++ ['.', '0']
  else if 0 < point ∧ point ≤ 16 then
    digits.take point.toNat ++ '.' :: digits.drop point.toNat
  else if -5 < point ∧ point ≤ 0 then ['0', '.'] ++ zeros (-point) ++ digits
  else
    let exponent := point - 1
    let sign := if exponent < 0 then '-' else '+'
    let mantissa := match digits with
      | [] => []
      | [d] => [d]
      | d :: ds => d :: '.' :: ds
    mantissa ++ 'e' :: sign :: (toString exponent.natAbs).toList

/-- **The text of a double**: its shortest digits, always with a point or an exponent. -/
def render (x : Double) : List Char :=
  let sign := if x.isNegative then ['-'] else []
  if x.isZero then sign ++ ['0', '.', '0']
  else
    let (digits, k) := x.shortest
    let (digits, zeros) := stripZeros digits
    sign ++ renderDigits (toString digits).toList (k + zeros)

end Double

end CloudProvider
