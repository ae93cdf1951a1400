import DeadSymbols.Json.Parser

/-!
# Dates and times of TOML

* `moment?`: reads a date, a time or both, and gives the usual written form.
-/

namespace DeadSymbols.Toml

/-- The number of some digits, exactly `n` of them, from `low` to `high`. -/
def field? (n low high : Nat) (cs : List Char) : Option (Nat × List Char) :=
  let ds := cs.take n
  let v := Json.digitsValue ds
  if ds.length == n && ds.all Char.isDigit && low ≤ v && v ≤ high then some (v, cs.drop n) else none

/-- Reads one character. -/
def char? (c : Char) : List Char → Option (List Char)
  | d :: cs => if c == d then some cs else none
  | [] => none

/-- The number of days of a month. -/
def daysOf (year month : Nat) : Nat :=
  if month == 2 then
    if (year % 4 == 0 && year % 100 != 0) || year % 400 == 0 then 29 else 28
  else if month == 4 || month == 6 || month == 9 || month == 11 then 30
  else 31

/-- A number with zeros in front, up to some width. -/
def padded (width n : Nat) : List Char :=
  let ds := Nat.toDigits 10 n
  List.replicate (width - ds.length) '0' ++ ds

/-- Reads a date. -/
def date? (cs : List Char) : Option (List Char × List Char) := do
  let (year, cs) ← field? 4 0 9999 cs
  let (month, cs) ← field? 2 1 12 (← char? '-' cs)
  let (day, cs) ← field? 2 1 (daysOf year month) (← char? '-' cs)
  some (padded 4 year ++ '-' :: padded 2 month ++ '-' :: padded 2 day, cs)

/-- Reads a fraction of a second, of which nine digits count. Zeros at its end are not written. -/
def fraction? (cs : List Char) : Option (List Char × List Char) :=
  match cs with
  | '.' :: rest =>
    let ds := rest.takeWhile Char.isDigit
    if ds.isEmpty then none
    else
      let kept := ((ds.take 9).reverse.dropWhile (· == '0')).reverse
      some (if kept.isEmpty then [] else '.' :: kept, rest.dropWhile Char.isDigit)
  | _ => some ([], cs)

/-- Reads a time of day. -/
def time? (cs : List Char) : Option (List Char × List Char) := do
  let (hour, cs) ← field? 2 0 23 cs
  let (minute, cs) ← field? 2 0 59 (← char? ':' cs)
  let (second, cs) ← field? 2 0 60 (← char? ':' cs)
  let (fraction, cs) ← fraction? cs
  some (padded 2 hour ++ ':' :: padded 2 minute ++ ':' :: padded 2 second ++ fraction, cs)

/-- Reads the distance from universal time, if there is one. -/
def offset? (cs : List Char) : Option (List Char × List Char) :=
  let signed (sign : Char) (rest : List Char) : Option (List Char × List Char) := do
    let (hour, rest) ← field? 2 0 23 rest
    let (minute, rest) ← field? 2 0 59 (← char? ':' rest)
    let sign := if hour == 0 && minute == 0 then '+' else sign
    some (sign :: padded 2 hour ++ ':' :: padded 2 minute, rest)
  match cs with
  | 'Z' :: rest | 'z' :: rest => some (['Z'], rest)
  | '+' :: rest => signed '+' rest
  | '-' :: rest => signed '-' rest
  | _ => some ([], cs)

/-- Reads a time after a date, and its distance from universal time. -/
def timeOfDate? (cs : List Char) : Option (List Char × List Char) := do
  let (time, cs) ← time? cs
  let (offset, cs) ← offset? cs
  some ('T' :: time ++ offset, cs)

/-- What makes a text start with a date or a time. -/
inductive MomentStart where
  | date
  | time
  | neither
deriving DecidableEq

/-- Whether a text starts with a date or a time: four digits and a hyphen, or two and a colon. -/
def momentStart (cs : List Char) : MomentStart :=
  let starts (n : Nat) (mark : Char) : Bool :=
    (cs.take n).all Char.isDigit && cs[n]? == some mark
  if starts 4 '-' then .date else if starts 2 ':' then .time else .neither

/-- Reads a date, a time or both. -/
def moment? (cs : List Char) : Option (List Char × List Char) :=
  match date? cs with
  | none => time? cs
  | some (date, rest) =>
    match rest with
    | 'T' :: after | 't' :: after | ' ' :: after =>
      if momentStart after == .time then
        (timeOfDate? after).map fun (time, rest) => (date ++ time, rest)
      else some (date, rest)
    | _ => some (date, rest)

end DeadSymbols.Toml
