import DeadSymbols.Text.CaseTable

/-!
# Lower case

Full lower-casing of a text by the rules of Unicode: every character is replaced by its
lower-case form, `İ` becomes two characters, and a capital sigma at the end of a word becomes
the final form `ς`.

* `lower`: the lower-case form of a text.
* `lowerAscii`: the same for the letters `A` to `Z` alone.
-/

namespace DeadSymbols.Text

/-- Membership in a list of ranges. -/
def inRanges (ranges : List (Nat × Nat)) (c : Char) : Bool :=
  ranges.any fun r => r.1 ≤ c.toNat && c.toNat ≤ r.2

/-- A letter that has a case. -/
def isCased (c : Char) : Bool := inRanges casedRanges c

/-- A character that the search for the end of a word passes over. -/
def isCaseIgnorable (c : Char) : Bool := inRanges caseIgnorableRanges c

/-- The code point that a run gives to `n`, if `n` belongs to it. -/
def LowerRun.image? (run : LowerRun) (n : Nat) : Option Nat :=
  if run.first ≤ n && n ≤ run.last && (n - run.first) % run.stride == 0 then
    some (run.target + (n - run.first))
  else
    none

/-- The lower-case form of one character, away from the capital sigma. -/
def lowerChar (c : Char) : List Char :=
  if c.toNat < 0x80 then
    [c.toLower]
  else if c.toNat == 0x130 then
    ['i', Char.ofNat 0x307]
  else
    match lowerRuns.findSome? (·.image? c.toNat) with
    | some n => [Char.ofNat n]
    | none => [c]

/-- Whether the first character that is not passed over has a case. -/
def casedNext (cs : List Char) : Bool :=
  match cs.dropWhile isCaseIgnorable with
  | [] => false
  | c :: _ => isCased c

/-- Lower-cases the characters after `before`, which is kept in reverse. A capital sigma is final
if a cased letter stands before it and none follows. -/
def lowerFrom (before : List Char) : List Char → List Char
  | [] => []
  | c :: rest =>
    (if c.toNat == 0x3A3 then
      [if casedNext before && !casedNext rest then Char.ofNat 0x3C2 else Char.ofNat 0x3C3]
    else
      lowerChar c) ++ lowerFrom (c :: before) rest

/-- The lower-case form of a text. -/
def lower (s : String) : String := String.ofList (lowerFrom [] s.toList)

/-- Lower-cases the letters `A` to `Z` and keeps all else. -/
def lowerAscii (s : String) : String := String.ofList (s.toList.map Char.toLower)

end DeadSymbols.Text
