import DeadSymbols.Json.Basic
import DeadSymbols.Binary64.Decimal

/-!
# Written JSON

* `compact`: no white space, members in the order in which the value holds them.
* `pretty`: two spaces per level, one member or element on each line.

Strings are written with every character as it is, except quotes, backslashes and the control
characters below the space.
-/

namespace DeadSymbols.Json

/-- A hexadecimal digit in lower case. -/
def hexDigit (n : Nat) : Char := Nat.digitChar (n % 16)

/-- One character inside quotes. -/
def escapeChar (c : Char) : List Char :=
  match c.toNat with
  | 0x22 => ['\\', c]
  | 0x5C => ['\\', c]
  | 0x08 => ['\\', 'b']
  | 0x09 => ['\\', 't']
  | 0x0A => ['\\', 'n']
  | 0x0C => ['\\', 'f']
  | 0x0D => ['\\', 'r']
  | n => if n < 0x20 then ['\\', 'u', '0', '0', hexDigit (n / 16), hexDigit n] else [c]

/-- A string in quotes. -/
def quoted (s : String) : List Char := '\x22' :: (s.toList.flatMap escapeChar ++ ['\x22'])

/-- A whole number. -/
def integerChars : Int → List Char
  | .ofNat n => Nat.toDigits 10 n
  | .negSucc n => '-' :: Nat.toDigits 10 (n + 1)

mutual

/-- The characters of the compact form. -/
def chars : Json → List Char
  | .null => ['n', 'u', 'l', 'l']
  | .bool true => ['t', 'r', 'u', 'e']
  | .bool false => ['f', 'a', 'l', 's', 'e']
  | .integer n => integerChars n
  | .real x => x.text.toList
  | .text s => quoted s
  | .array elements => '[' :: elementChars elements
  | .object members => '\x7b' :: memberChars members
termination_by structural v => v

/-- Elements and the closing bracket. -/
def elementChars : List Json → List Char
  | [] => [']']
  | v :: rest => v.chars ++ nextElementChars rest
termination_by structural vs => vs

/-- Further elements, each after a comma, and the closing bracket. -/
def nextElementChars : List Json → List Char
  | [] => [']']
  | v :: rest => ',' :: (v.chars ++ nextElementChars rest)
termination_by structural vs => vs

/-- One member. -/
def pairChars : String × Json → List Char
  | (k, v) => quoted k ++ ':' :: v.chars
termination_by structural m => m

/-- Members and the closing brace. -/
def memberChars : List (String × Json) → List Char
  | [] => ['\x7d']
  | m :: rest => pairChars m ++ nextMemberChars rest
termination_by structural ms => ms

/-- Further members, each after a comma, and the closing brace. -/
def nextMemberChars : List (String × Json) → List Char
  | [] => ['\x7d']
  | m :: rest => ',' :: (pairChars m ++ nextMemberChars rest)
termination_by structural ms => ms

end

/-- The compact form. -/
def compact (v : Json) : String := String.ofList v.chars

/-- A line feed and the indentation of a level. -/
def newline (level : Nat) : List Char := '\n' :: List.replicate (2 * level) ' '

mutual

/-- The characters of the indented form, for a value that starts on a line of the given level. -/
def prettyChars (level : Nat) : Json → List Char
  | .null => ['n', 'u', 'l', 'l']
  | .bool true => ['t', 'r', 'u', 'e']
  | .bool false => ['f', 'a', 'l', 's', 'e']
  | .integer n => integerChars n
  | .real x => x.text.toList
  | .text s => quoted s
  | .array [] => ['[', ']']
  | .array (v :: rest) =>
    '[' :: (newline (level + 1) ++ prettyChars (level + 1) v ++ prettyElements level rest)
  | .object [] => ['\x7b', '\x7d']
  | .object (m :: rest) =>
    '\x7b' :: (newline (level + 1) ++ prettyPair (level + 1) m ++ prettyMembers level rest)
termination_by structural v => v

/-- Further elements, each on a line of its own, and the closing bracket. -/
def prettyElements (level : Nat) : List Json → List Char
  | [] => newline level ++ [']']
  | v :: rest =>
    ',' :: (newline (level + 1) ++ prettyChars (level + 1) v ++ prettyElements level rest)
termination_by structural vs => vs

/-- One member, with a space after the colon. -/
def prettyPair (level : Nat) : String × Json → List Char
  | (k, v) => quoted k ++ ':' :: ' ' :: prettyChars level v
termination_by structural m => m

/-- Further members, each on a line of its own, and the closing brace. -/
def prettyMembers (level : Nat) : List (String × Json) → List Char
  | [] => newline level ++ ['\x7d']
  | m :: rest =>
    ',' :: (newline (level + 1) ++ prettyPair (level + 1) m ++ prettyMembers level rest)
termination_by structural ms => ms

end

/-- The indented form. -/
def pretty (v : Json) : String := String.ofList (v.prettyChars 0)

end DeadSymbols.Json
