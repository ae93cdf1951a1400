import DeadSymbols.Json.Basic
import DeadSymbols.Binary64.Decimal
import DeadSymbols.Text.Utf8

/-!
# Reading JSON

A text is read into a value that keeps the members of an object as they are written, a repeated
key included. Containers may be nested `maxDepth` deep.

* `parse?`: the value of a text, none if it is not JSON.
* `ofBytes?`: the normal value of some bytes.
-/

namespace DeadSymbols.Json

/-- How deep containers may be nested. -/
def maxDepth : Nat := 127

/-- White space between tokens. -/
def isBlank (c : Char) : Bool := c == ' ' || c == '\n' || c == '\t' || c == '\r'

/-- The text after leading white space. -/
def skipBlank (cs : List Char) : List Char := cs.dropWhile isBlank

/-- The value of a decimal digit. -/
def digitValue (c : Char) : Nat := c.toNat - 48

/-- The digits at the start of a text, and what follows them. -/
def spanDigits (cs : List Char) : List Char × List Char :=
  (cs.takeWhile Char.isDigit, cs.dropWhile Char.isDigit)

/-! ## Numbers -/

/-- The value of some digits. -/
def digitsValue (ds : List Char) : Nat := ds.foldl (fun n d => n * 10 + digitValue d) 0

/-- Reads digits into a significand while it fits into 64 bits; gives the significand and the
number of digits that were left over. -/
def takeSignificand (significand : Nat) : List Char → Nat × Nat
  | [] => (significand, 0)
  | d :: rest =>
    if significand * 10 + digitValue d ≤ maxUInt64 then
      takeSignificand (significand * 10 + digitValue d) rest
    else
      (significand, rest.length + 1)

/-- Divides by powers of ten in steps of at most `10 ^ 308`, rounding after each step. -/
def scaleDown (x : Binary64) : Nat → Nat → Option Binary64
  | 0, _ => some x
  | fuel + 1, scale =>
    if x.magnitude == 0 then some x
    else if scale ≤ 308 then (Binary64.ofDecimal? false 1 scale).bind x.div?
    else ((Binary64.ofDecimal? false 1 308).bind x.div?).bind fun y => scaleDown y fuel (scale - 308)

/-- A significand times a power of ten: both are rounded, and then their product or quotient.
None if the result is too large. -/
def scaled? (significand : Nat) (exponent : Int) : Option Binary64 := do
  let x ← Binary64.ofRatio? false significand 1
  if exponent < 0 then
    scaleDown x exponent.natAbs exponent.natAbs
  else if significand == 0 then
    some x
  else if exponent ≤ 308 then
    (Binary64.ofDecimal? false 1 exponent).bind x.mul?
  else
    none

/-- The parts of a written number. -/
structure Numeral where
  negative : Bool
  whole : List Char
  /-- The digits after the point, none without a point. -/
  fraction : Option (List Char)
  /-- The sign and the digits of the exponent. -/
  exponent : Option (Bool × List Char)

/-- The largest exponent that is told apart. -/
def maxExponent : Nat := 0x7FFFFFFF

/-- The value of a written number, none if it is too large. -/
def Numeral.value? (n : Numeral) : Option Json :=
  let (whole, dropped) := takeSignificand 0 n.whole
  match n.fraction, n.exponent with
  | none, none =>
    if dropped == 0 then
      if n.negative then
        if 0 < whole && whole ≤ 0x8000000000000000 then some (.integer (-(whole : Int)))
        else (scaled? whole 0).map fun x => .real (x.withSign true)
      else
        some (.integer whole)
    else
      (scaled? whole dropped).map fun x => .real (x.withSign n.negative)
  | fraction, exponent =>
    let digits := fraction.getD []
    let (significand, left) := takeSignificand whole digits
    let scale : Int := (dropped : Int) - ((digits.length - left : Nat) : Int)
    let x? :=
      match exponent with
      | none => scaled? significand scale
      | some (negative, ds) =>
        let e := digitsValue ds
        if maxExponent < e then
          if significand != 0 && !negative then none else some (Binary64.zero false)
        else
          scaled? significand (if negative then scale - e else scale + e)
    x?.map fun x => .real (x.withSign n.negative)

/-- Reads an exponent, after its letter. -/
def readExponent? (cs : List Char) : Option ((Bool × List Char) × List Char) :=
  let (negative, cs) :=
    match cs with
    | '+' :: rest => (false, rest)
    | '-' :: rest => (true, rest)
    | _ => (false, cs)
  match spanDigits cs with
  | ([], _) => none
  | (ds, rest) => some ((negative, ds), rest)

/-- Reads a number, which has no zero before another digit. -/
def readNumeral? (cs : List Char) : Option (Numeral × List Char) := do
  let (negative, cs) :=
    match cs with
    | '-' :: rest => (true, rest)
    | _ => (false, cs)
  let (whole, cs) := spanDigits cs
  if whole.isEmpty || (whole.head? == some '0' && whole.length != 1) then none
  let (fraction, cs) ←
    match cs with
    | '.' :: rest =>
      match spanDigits rest with
      | ([], _) => none
      | (ds, rest) => some (some ds, rest)
    | _ => some (none, cs)
  match cs with
  | 'e' :: rest | 'E' :: rest =>
    let (exponent, rest) ← readExponent? rest
    some (⟨negative, whole, fraction, some exponent⟩, rest)
  | _ => some (⟨negative, whole, fraction, none⟩, cs)

/-- Reads a number to its value. -/
def readNumber? (cs : List Char) : Option (Json × List Char) := do
  let (numeral, rest) ← readNumeral? cs
  let value ← numeral.value?
  some (value, rest)

/-! ## Strings -/

/-- The value of a hexadecimal digit in either case. -/
def hexValue? (c : Char) : Option Nat :=
  if c.isDigit then some (c.toNat - 48)
  else if 'a' ≤ c && c ≤ 'f' then some (c.toNat - 87)
  else if 'A' ≤ c && c ≤ 'F' then some (c.toNat - 55)
  else none

/-- The value of four hexadecimal digits. -/
def hexValue4? (a b c d : Char) : Option Nat := do
  some (((← hexValue? a) * 16 + (← hexValue? b)) * 256 + (← hexValue? c) * 16 + (← hexValue? d))

/-- The character of a letter after a backslash. -/
def unescape? (c : Char) : Option Char :=
  match c with
  | '\x22' | '\\' | '/' => some c
  | 'b' => some '\x08'
  | 'f' => some '\x0c'
  | 'n' => some '\n'
  | 'r' => some '\r'
  | 't' => some '\t'
  | _ => none

/-- Reads the rest of a string after its opening quote; `done` holds what was read, in reverse. An
escape of half a surrogate pair stands only together with the other half. -/
def readStringFrom? (done : List Char) : List Char → Option (List Char × List Char)
  | [] => none
  | '\x22' :: rest => some (done.reverse, rest)
  | '\\' :: 'u' :: a :: b :: c :: d :: rest =>
    match hexValue4? a b c d with
    | none => none
    | some n =>
      if 0xDC00 ≤ n && n < 0xE000 then none
      else if 0xD800 ≤ n && n < 0xDC00 then
        match rest with
        | '\\' :: 'u' :: a :: b :: c :: d :: rest =>
          match hexValue4? a b c d with
          | none => none
          | some m =>
            if 0xDC00 ≤ m && m < 0xE000 then
              readStringFrom? (Char.ofNat ((n - 0xD800) * 1024 + (m - 0xDC00) + 0x10000) :: done) rest
            else none
        | _ => none
      else
        readStringFrom? (Char.ofNat n :: done) rest
  | '\\' :: c :: rest =>
    match unescape? c with
    | none => none
    | some e => readStringFrom? (e :: done) rest
  | c :: rest =>
    if c == '\\' || c.toNat < 0x20 then none else readStringFrom? (c :: done) rest

/-- Reads the rest of a string after its opening quote. -/
def readString? (cs : List Char) : Option (List Char × List Char) := readStringFrom? [] cs

/-! ## Values -/

mutual

/-- Reads a value that starts after white space; `depth` containers may still be opened. -/
def readValue? (fuel depth : Nat) (cs : List Char) : Option (Json × List Char) :=
  match fuel with
  | 0 => none
  | fuel + 1 =>
    match skipBlank cs with
    | 'n' :: 'u' :: 'l' :: 'l' :: rest => some (.null, rest)
    | 't' :: 'r' :: 'u' :: 'e' :: rest => some (.bool true, rest)
    | 'f' :: 'a' :: 'l' :: 's' :: 'e' :: rest => some (.bool false, rest)
    | '\x22' :: rest => (readString? rest).map fun (s, after) => (.text (String.ofList s), after)
    | '[' :: rest =>
      match depth with
      | 0 => none
      | depth + 1 =>
        match skipBlank rest with
        | ']' :: after => some (.array [], after)
        | rest => (readElements? fuel depth rest).map fun (vs, after) => (.array vs, after)
    | '\x7b' :: rest =>
      match depth with
      | 0 => none
      | depth + 1 =>
        match skipBlank rest with
        | '\x7d' :: after => some (.object [], after)
        | rest => (readMembers? fuel depth rest).map fun (ms, after) => (.object ms, after)
    | cs => readNumber? cs

/-- Reads elements up to the closing bracket. -/
def readElements? (fuel depth : Nat) (cs : List Char) : Option (List Json × List Char) :=
  match fuel with
  | 0 => none
  | fuel + 1 =>
    match readValue? fuel depth cs with
    | none => none
    | some (v, rest) =>
      match skipBlank rest with
      | ']' :: after => some ([v], after)
      | ',' :: rest => (readElements? fuel depth rest).map fun (vs, after) => (v :: vs, after)
      | _ => none

/-- Reads members up to the closing brace. -/
def readMembers? (fuel depth : Nat) (cs : List Char) :
    Option (List (String × Json) × List Char) :=
  match fuel with
  | 0 => none
  | fuel + 1 =>
    match skipBlank cs with
    | '\x22' :: rest =>
      match readString? rest with
      | none => none
      | some (key, rest) =>
        match skipBlank rest with
        | ':' :: rest =>
          match readValue? fuel depth rest with
          | none => none
          | some (v, rest) =>
            match skipBlank rest with
            | '\x7d' :: after => some ([(String.ofList key, v)], after)
            | ',' :: rest =>
              (readMembers? fuel depth rest).map fun (ms, after) =>
                ((String.ofList key, v) :: ms, after)
            | _ => none
        | _ => none
    | _ => none

end

/-- The value of a text with containers nested at most `depth` deep. A value and each step into a
container take a character, so twice the length bounds the steps. -/
def parseWithin? (depth : Nat) (s : String) : Option Json :=
  let cs := s.toList
  match readValue? (2 * cs.length + 2) depth cs with
  | some (v, rest) => if (skipBlank rest).isEmpty then some v else none
  | none => none

/-- The value of a text, as it is written. -/
def parse? (s : String) : Option Json := parseWithin? maxDepth s

/-- The value of some bytes, in normal form. -/
def ofBytes? (bytes : List UInt8) : Option Json :=
  match Text.decode bytes with
  | .ok s => (parse? s).map normal
  | .error _ => none

end DeadSymbols.Json
