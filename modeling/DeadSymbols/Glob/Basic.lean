import DeadSymbols.Text.Utf8

/-!
# Globs

Patterns for paths. Paths are matched byte by byte; a question mark stands for one byte and a star
for any number of bytes, none of them a slash, while two stars stand for any number of parts.

* `Glob.matches`: whether a whole path fits a pattern.
* `Glob.Token.rests`: what may be left of a text after one token.
-/

namespace DeadSymbols

namespace Glob

/-- A piece of a pattern. -/
inductive Token where
  | literal (c : Char)
  /-- One byte other than a slash. -/
  | any
  /-- Bytes other than a slash. -/
  | star
  /-- One byte in some ranges, or in none of them. -/
  | oneOf (negated : Bool) (ranges : List (UInt8 × UInt8))
  /-- Any number of parts at the start, each with the slash after it. -/
  | anyStart
  /-- A slash, any number of parts, and a slash if there is a part. -/
  | anyMiddle
  /-- A slash and all that follows. -/
  | anyEnd
  /-- One of several patterns. -/
  | oneOfAll (branches : List (List Token))
deriving BEq, Inhabited, Repr

/-- The byte of a slash. -/
def slash : UInt8 := 0x2F

/-- All ends of a text, the text itself included. -/
def ends : List UInt8 → List (List UInt8)
  | [] => [[]]
  | b :: s => (b :: s) :: ends s

/-- What follows each slash of a text. -/
def endsAfterSlash : List UInt8 → List (List UInt8)
  | [] => []
  | b :: s => if b == slash then s :: endsAfterSlash s else endsAfterSlash s

/-- The ends of a text before which there is no slash. -/
def endsBeforeSlash : List UInt8 → List (List UInt8)
  | [] => [[]]
  | b :: s => (b :: s) :: if b == slash then [] else endsBeforeSlash s

/-- What follows some bytes at the start of a text. -/
def strip? : List UInt8 → List UInt8 → Option (List UInt8)
  | [], s => some s
  | b :: bs, c :: s => if b == c then strip? bs s else none
  | _ :: _, [] => none

mutual

/-- Whether a token is a choice between nothing. -/
def Token.isVacuous : Token → Bool
  | .oneOfAll branches => areVacuousBranches branches
  | _ => false
termination_by structural t => t

/-- Whether all tokens are a choice between nothing. -/
def areVacuous : List Token → Bool
  | [] => true
  | t :: ts => t.isVacuous && areVacuous ts
termination_by structural ts => ts

/-- Whether all branches are empty. -/
def areVacuousBranches : List (List Token) → Bool
  | [] => true
  | ts :: rest => areVacuous ts && areVacuousBranches rest
termination_by structural bs => bs

end

mutual

/-- What may be left of a text after a token at its start. -/
def Token.rests : Token → List UInt8 → List (List UInt8)
  | .literal c, s => (strip? (Text.encode c.toString) s).toList
  | .any, s =>
    match s with
    | [] => []
    | b :: s => if b == slash then [] else [s]
  | .star, s => endsBeforeSlash s
  | .oneOf negated ranges, s =>
    match s with
    | [] => []
    | b :: s => if ranges.any (fun r => r.1 ≤ b && b ≤ r.2) != negated then [s] else []
  | .anyStart, s => s :: endsAfterSlash s
  | .anyMiddle, s =>
    match s with
    | [] => []
    | b :: s => if b == slash then s :: endsAfterSlash s else []
  | .anyEnd, s =>
    match s with
    | [] => []
    | b :: s => if b == slash then ends s else []
  | .oneOfAll branches, s => if areVacuousBranches branches then [s] else restsOfBranches branches s
termination_by structural t => t

/-- What may be left of some texts after tokens at their start. -/
def restsOfTokens : List Token → List (List UInt8) → List (List UInt8)
  | [], texts => texts
  | t :: ts, texts => restsOfTokens ts (texts.flatMap t.rests).eraseDups
termination_by structural ts => ts

/-- What may be left of a text after one of several patterns. An empty pattern is no choice. -/
def restsOfBranches : List (List Token) → List UInt8 → List (List UInt8)
  | [], _ => []
  | ts :: rest, s =>
    (if areVacuous ts then [] else restsOfTokens ts [s]) ++ restsOfBranches rest s
termination_by structural bs => bs

end

end Glob

/-- A pattern for paths. -/
structure Glob where
  tokens : List Glob.Token
deriving BEq, Repr

/-- Whether a path fits a pattern. Two stars alone fit every path. -/
def Glob.matches (glob : Glob) (path : List UInt8) : Bool :=
  glob.tokens == [.anyStart] || (Glob.restsOfTokens glob.tokens [path]).any List.isEmpty

end DeadSymbols
