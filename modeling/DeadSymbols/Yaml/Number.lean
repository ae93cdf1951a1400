import DeadSymbols.Json.Parser
import DeadSymbols.Text.Natural

/-!
# Plain words of YAML

A scalar without quotes may stand for nothing, a truth value or a number.

* `isNull`, `bool?`, `natural?`, `integer?`, `real?`: what a word stands for.
-/

namespace DeadSymbols.Yaml

/-- Whether a word stands for nothing. -/
def isNull (s : String) : Bool := s == "null" || s == "Null" || s == "NULL" || s == "~"

/-- The truth value that a word stands for. -/
def bool? (s : String) : Option Bool :=
  if s == "true" || s == "True" || s == "TRUE" then some true
  else if s == "false" || s == "False" || s == "FALSE" then some false
  else none

/-- The number that digits to a base stand for. -/
def digits? (base : Nat) (ds : List Char) : Option Nat := do
  let values ← ds.mapM Json.hexValue?
  if values.isEmpty || !values.all (· < base) then none
  some (values.foldl (fun n d => n * base + d) 0)

/-- The base of the digits after a mark, and the digits. Without a mark the base is ten. -/
def splitBase (cs : List Char) : Nat × List Char :=
  match cs with
  | '0' :: 'x' :: ds => (16, ds)
  | '0' :: 'o' :: ds => (8, ds)
  | '0' :: 'b' :: ds => (2, ds)
  | ds => (10, ds)

/-- Digits with a zero in front, which are no number. -/
def isZeroPadded (cs : List Char) : Bool :=
  let ds := match cs with
    | '-' :: ds | '+' :: ds => ds
    | ds => ds
  1 < ds.length && ds.head? == some '0' && ds.all Char.isDigit

/-- The natural number that a word stands for. -/
def natural? (s : String) : Option Nat :=
  let (base, ds) := splitBase (match s.toList with
    | '+' :: ds => ds
    | ds => ds)
  if isZeroPadded s.toList then none else digits? base ds

/-- The negative number, or zero, that a word stands for. -/
def negative? (s : String) : Option Int :=
  match s.toList with
  | '-' :: cs =>
    let (base, ds) := splitBase cs
    if isZeroPadded s.toList then none else (digits? base ds).map fun n => -(n : Int)
  | _ => none

/-- The whole number that a word stands for. -/
def integer? (s : String) : Option Int :=
  match natural? s with
  | some n => some n
  | none => negative? s

/-- A word for a number that is no finite one. -/
def isUnbounded (s : String) : Bool :=
  [".inf", ".Inf", ".INF", "+.inf", "+.Inf", "+.INF", "-.inf", "-.Inf", "-.INF", ".nan", ".NaN",
    ".NAN"].contains s

/-- The digits of a number before an exponent: those before the point and those after it. -/
def mantissa? (cs : List Char) : Option (List Char × List Char) :=
  let whole := cs.takeWhile Char.isDigit
  let fraction? :=
    match cs.dropWhile Char.isDigit with
    | [] => some []
    | '.' :: ds => if ds.all Char.isDigit then some ds else none
    | _ => none
  fraction?.bind fun fraction =>
    if whole.isEmpty && fraction.isEmpty then none else some (whole, fraction)

/-- The exponent in what follows the letter for it. -/
def exponent? (cs : List Char) : Option Int :=
  let (negative, ds) := match cs with
    | '-' :: ds => (true, ds)
    | '+' :: ds => (false, ds)
    | ds => (false, ds)
  if ds.isEmpty || !ds.all Char.isDigit then none
  else
    let n : Int := Json.digitsValue ds
    some (if negative then -n else n)

/-- The finite number that a word stands for. -/
def real? (s : String) : Option Binary64 := do
  let (negative, cs) := match s.toList with
    | '-' :: cs => (true, cs)
    | '+' :: cs => (false, cs)
    | cs => (false, cs)
  let isExponentMark (c : Char) : Bool := c == 'e' || c == 'E'
  let (whole, fraction) ← mantissa? (cs.takeWhile (!isExponentMark ·))
  let exponent ← match cs.dropWhile (!isExponentMark ·) with
    | [] => some 0
    | _ :: rest => exponent? rest
  Binary64.ofDecimal? negative (Json.digitsValue (whole ++ fraction)) (exponent - fraction.length)

end DeadSymbols.Yaml
