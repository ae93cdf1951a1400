import DeadSymbols.Binary64.Basic

/-!
# Decimal forms of binary64 numbers

* `ofDecimal?`: the number nearest to a decimal.
* `shortest`: the fewest decimal digits that read back as the number, and of those the nearest.
* `text`: the written form: positional from `1e-5` up to `1e16`, with a point and at least one
  digit after it, else one digit before the point and an exponent with its sign.
-/

namespace DeadSymbols.Binary64

/-- A scale beyond which every decimal with a few thousand digits is zero or too large. -/
def farScale : Int := 400

/-- The number nearest to `digits * 10 ^ scale`, or none if it is too large. -/
def ofDecimal? (negative : Bool) (digits : Nat) (scale : Int) : Option Binary64 :=
  let size : Int := (Nat.toDigits 10 digits).length
  if digits == 0 || size + scale < -farScale then some (zero negative)
  else if farScale < size + scale then none
  else if 0 ≤ scale then ofRatio? negative (digits * Nat.pow 10 scale.toNat) 1
  else ofRatio? negative digits (Nat.pow 10 (-scale).toNat)

/-- Decimal digits and the position of the point: the value is `0.d₁d₂... * 10 ^ point`. -/
structure Digits where
  digits : List Char
  point : Int

/-- `num / den` scaled by `10 ^ (-k)`, as numerator and denominator. -/
def scaleDecimal (num den : Nat) (k : Int) : Nat × Nat :=
  if 0 ≤ k then (num, den * Nat.pow 10 k.toNat) else (num * Nat.pow 10 (-k).toNat, den)

/-- The least `k` with `num / den < 10 ^ k`, found upwards from `k` in at most `fuel` steps. -/
def pointFrom (num den : Nat) : Nat → Int → Int
  | 0, k => k
  | fuel + 1, k =>
    let (n, d) := scaleDecimal num den k
    if n < d then k else pointFrom num den fuel (k + 1)

/-- A positive number seen on the decimal grids: four times its significand, the ends of the
interval of values that round to it on that scale, and whether the ends belong to it. -/
structure Rounding where
  middle : Nat
  low : Nat
  high : Nat
  closed : Bool

/-- The interval of values that round to a number; it is narrower below a power of two. -/
def rounding (x : Binary64) : Rounding :=
  let m := x.significand
  let narrow := m == hiddenBit && x.exponent != minExponent
  ⟨4 * m, if narrow then 4 * m - 1 else 4 * m - 2, 4 * m + 2, m % 2 == 0⟩

/-- Whether `d * unit` lies in the interval, everything given over the denominator `den`. -/
def Rounding.holds (r : Rounding) (scale den d : Nat) : Bool :=
  let v := d * den
  if r.closed then r.low * scale ≤ v && v ≤ r.high * scale
  else r.low * scale < v && v < r.high * scale

/-- The best multiple of the grid's unit inside the interval: of the two neighbours of the
number, the nearer one that lies in the interval, an exact tie to the even one. `scale / den` is
the size of a quarter of the last place in units of the grid. -/
def Rounding.onGrid? (r : Rounding) (scale den : Nat) : Option Nat :=
  let below := r.middle * scale / den
  let rest := r.middle * scale % den
  let upNearer := den < 2 * rest || (2 * rest == den && below % 2 == 1)
  let first := if upNearer then below + 1 else below
  let second := if upNearer then below else below + 1
  if r.holds scale den first then some first
  else if r.holds scale den second then some second
  else none

/-- Tries the grids with `n`, `n + 1`, ... digits, `fuel` of them. -/
def shortestFrom (r : Rounding) (unit den : Nat) (point : Int) : Nat → Nat → Nat × Int
  | 0, n => (r.middle, point - n)
  | fuel + 1, n =>
    let (s, d) := scaleDecimal unit den (point - n)
    match r.onGrid? s d with
    | some v => (v, point - n)
    | none => shortestFrom r unit den point fuel (n + 1)

/-- The digits of `v * 10 ^ scale`, without zeros at the end. -/
def Digits.ofNat (v : Nat) (scale : Int) : Digits :=
  let all := Nat.toDigits 10 v
  ⟨(all.reverse.dropWhile (· == '0')).reverse, all.length + scale⟩

/-- The shortest digits of a number that is not zero. -/
def shortest (x : Binary64) : Digits :=
  let e := x.exponent - 2
  let (unit, den) := if 0 ≤ e then (Nat.pow 2 e.toNat, 1) else (1, Nat.pow 2 (-e).toNat)
  let r := x.rounding
  let point := pointFrom (r.middle * unit) den 700 (-330)
  let (v, scale) := shortestFrom r unit den point 17 1
  Digits.ofNat v scale

/-- The digits in positional notation, with at least one digit on each side of the point. -/
def Digits.positional (d : Digits) : List Char :=
  if d.point ≤ 0 then
    '0' :: '.' :: (List.replicate (-d.point).toNat '0' ++ d.digits)
  else
    let n := d.point.toNat
    let whole := d.digits.take n ++ List.replicate (n - d.digits.length) '0'
    let rest := d.digits.drop n
    whole ++ '.' :: (if rest.isEmpty then ['0'] else rest)

/-- The digits with one of them before the point, and an exponent. -/
def Digits.scientific (d : Digits) : List Char :=
  let e := d.point - 1
  let head :=
    match d.digits with
    | [] => ['0']
    | [c] => [c]
    | c :: rest => c :: '.' :: rest
  head ++ 'e' :: (if e < 0 then '-' else '+') :: Nat.toDigits 10 e.natAbs

/-- The written form of the absolute value. -/
def magnitudeText (x : Binary64) : List Char :=
  if x.magnitude == 0 then
    ['0', '.', '0']
  else
    let d := x.shortest
    if -5 < d.point && d.point ≤ 16 then d.positional else d.scientific

/-- The written form. -/
def text (x : Binary64) : String :=
  String.ofList (if x.isNegative then '-' :: x.magnitudeText else x.magnitudeText)

end DeadSymbols.Binary64
