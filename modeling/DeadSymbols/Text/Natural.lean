/-!
# Natural numbers in text

* `natural?`: the number that decimal digits stand for, up to a limit.
-/

namespace DeadSymbols.Text

/-- The value of decimal digits. -/
def decimalValue (ds : List Char) : Nat := ds.foldl (fun n d => n * 10 + (d.toNat - 48)) 0

/-- The number written as one digit or more, with or without a plus sign in front; none if it is
above `limit`. -/
def natural? (limit : Nat) (s : String) : Option Nat :=
  let ds :=
    match s.toList with
    | '+' :: rest => rest
    | cs => cs
  if ds.isEmpty || !ds.all Char.isDigit then none
  else if decimalValue ds ≤ limit then some (decimalValue ds) else none

/-- The largest number of 64 bits. -/
def maxUInt64 : Nat := 0xFFFFFFFFFFFFFFFF

end DeadSymbols.Text
