/-!
# Binary64 numbers

The finite numbers of the format binary64, kept as their 64 bits, with exact arithmetic on
natural numbers and one rounding at the end: to the nearest, a tie to the even significand.

* `ofRatio?`: the number nearest to a quotient of natural numbers; none if it is too large.
* `significand`, `exponent`: a number is `significand * 2 ^ exponent` up to its sign.
* `mul?`, `div?`: product and quotient of the absolute values, rounded.
-/

namespace DeadSymbols

/-- A number of the format binary64, as its bits. -/
structure Binary64 where
  bits : UInt64
deriving DecidableEq, Repr

namespace Binary64

/-- The exponent of the last place of the smallest numbers. -/
def minExponent : Int := -1074

/-- The bit of the sign. -/
def signBit : Nat := 0x8000000000000000

/-- The bit of a significand that is not stored, above the 52 that are. -/
def hiddenBit : Nat := 0x10000000000000

/-- The bits of the first value above the finite ones. -/
def infinityBits : Nat := 0x7FF0000000000000

/-- `n / d` without the fraction, a half and more rounded up, an exact half to the even side. -/
def divNearest (n d : Nat) : Nat :=
  let q := n / d
  let r := n % d
  if 2 * r < d || (2 * r == d && q % 2 == 0) then q else q + 1

/-- `num / den` scaled by `2 ^ (-e)`, as numerator and denominator. -/
def scaleBinary (num den : Nat) (e : Int) : Nat × Nat :=
  if 0 ≤ e then (num, den * Nat.pow 2 e.toNat) else (num * Nat.pow 2 (-e).toNat, den)

/-- The exponent of the last place of the number nearest to `num / den`. -/
def placeOf (num den : Nat) : Int :=
  let e : Int := (num.log2 : Int) - (den.log2 : Int) - 52
  let (n, d) := scaleBinary num den e
  max minExponent (if n / d < hiddenBit then e - 1 else e)

/-- The bits of the number nearest to `num / den`. The significand fills the low 52 bits and
carries into the exponent above them. -/
def ratioBits (num den : Nat) : Nat :=
  if num == 0 then 0 else
  let e := placeOf num den
  let (n, d) := scaleBinary num den e
  (e - minExponent).toNat * hiddenBit + divNearest n d

/-- The number with the given sign that is nearest to `num / den`, or none if that is beyond the
finite numbers. -/
def ofRatio? (negative : Bool) (num den : Nat) : Option Binary64 :=
  let bits := ratioBits num den
  if bits < infinityBits then
    some ⟨UInt64.ofNat (bits + if negative then signBit else 0)⟩
  else
    none

/-- The zero with the given sign. -/
def zero (negative : Bool) : Binary64 := ⟨if negative then 0x8000000000000000 else 0⟩

/-- Whether the sign bit is set. -/
def isNegative (x : Binary64) : Bool := x.bits.toNat ≥ signBit

/-- The bits without the sign. -/
def magnitude (x : Binary64) : Nat := x.bits.toNat % signBit

/-- The number with the sign set or cleared. -/
def withSign (x : Binary64) (negative : Bool) : Binary64 :=
  ⟨UInt64.ofNat (x.magnitude + if negative then signBit else 0)⟩

/-- The significand, an integer. -/
def significand (x : Binary64) : Nat :=
  if x.magnitude < hiddenBit then x.magnitude else x.magnitude % hiddenBit + hiddenBit

/-- The power of two that the significand counts. -/
def exponent (x : Binary64) : Int :=
  if x.magnitude < hiddenBit then minExponent
  else ((x.magnitude / hiddenBit : Nat) : Int) - 1 + minExponent

/-- The absolute value as numerator and denominator. -/
def ratio (x : Binary64) : Nat × Nat :=
  if 0 ≤ x.exponent then (x.significand * Nat.pow 2 x.exponent.toNat, 1)
  else (x.significand, Nat.pow 2 (-x.exponent).toNat)

/-- The product of the absolute values, rounded. -/
def mul? (x y : Binary64) : Option Binary64 :=
  ofRatio? false (x.ratio.1 * y.ratio.1) (x.ratio.2 * y.ratio.2)

/-- The quotient of the absolute values, rounded; the divisor is not zero. -/
def div? (x y : Binary64) : Option Binary64 :=
  ofRatio? false (x.ratio.1 * y.ratio.2) (x.ratio.2 * y.ratio.1)

end Binary64

end DeadSymbols
