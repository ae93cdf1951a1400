/-!
# Places in a YAML text

* `Cursor`: the text still to be read, with the place in the whole text.
* `Cursor.skip`, `Cursor.takeBreak`: reading one character or the end of a line.
-/

namespace DeadSymbols.Yaml

/-- The text still to be read and how much was read. -/
structure Cursor where
  rest : List Char
  index : Nat := 0
  line : Nat := 0
  column : Nat := 0

/-- A space or a tab. -/
def isBlank (c : Char) : Bool := c == ' ' || c == '\t'

/-- A character that ends a line. -/
def isBreak (c : Char) : Bool :=
  c == '\n' || c == '\r' || c.toNat == 0x85 || c.toNat == 0x2028 || c.toNat == 0x2029

/-- A letter, a digit, a hyphen or an underscore. -/
def isWord (c : Char) : Bool := c.isAlphanum || c == '-' || c == '_'

/-- A character that a text may hold. -/
def isAllowed (c : Char) : Bool :=
  let n := c.toNat
  n == 9 || n == 10 || n == 13 || (0x20 ≤ n && n ≤ 0x7E) || n == 0x85 ||
    (0xA0 ≤ n && n ≤ 0xD7FF) || (0xE000 ≤ n && n ≤ 0xFFFD) || 0x10000 ≤ n

namespace Cursor

/-- The character at some distance. -/
def peek (c : Cursor) (n : Nat) : Option Char := c.rest[n]?

/-- Whether a character or the end of the text at some distance ends a line. -/
def atBreak (c : Cursor) (n : Nat) : Bool := (c.peek n).all isBreak

/-- Whether there is a blank, the end of a line or the end of the text at some distance. -/
def atBlank (c : Cursor) (n : Nat) : Bool := (c.peek n).all fun ch => isBlank ch || isBreak ch

/-- Reads some characters that end no line. -/
def advance (c : Cursor) (n : Nat) : Cursor :=
  { c with rest := c.rest.drop n, index := c.index + n, column := c.column + n }

/-- Reads one character that ends no line. -/
def skip (c : Cursor) : Cursor := c.advance 1

/-- Reads the characters with a property, which no end of a line has. -/
def span (p : Char → Bool) (c : Cursor) : List Char × Cursor :=
  let cs := c.rest.takeWhile p
  (cs, c.advance cs.length)

/-- Passes over the characters with a property, which no end of a line has. -/
def skipWhile (p : Char → Bool) (c : Cursor) : Cursor := (c.span p).2

/-- Reads the end of a line, and gives the line feed or separator that it stands for. -/
def takeBreak (c : Cursor) : List Char × Cursor :=
  let next (n : Nat) (rest : List Char) : Cursor := ⟨rest, c.index + n, c.line + 1, 0⟩
  match c.rest with
  | '\r' :: '\n' :: rest => (['\n'], next 2 rest)
  | ch :: rest =>
    if !isBreak ch then ([], c)
    else if ch.toNat == 0x2028 || ch.toNat == 0x2029 then ([ch], next 1 rest)
    else (['\n'], next 1 rest)
  | [] => ([], c)

/-- Whether a line starts here with the mark of the start or the end of a document. -/
def atDocumentMark (c : Cursor) : Bool :=
  c.column == 0 && c.atBlank 3 &&
    (c.rest.take 3 == ['-', '-', '-'] || c.rest.take 3 == ['.', '.', '.'])

/-- Passes over a comment, if there is one. -/
def skipComment (c : Cursor) : Cursor :=
  if c.peek 0 == some '#' then c.skipWhile fun ch => !isBreak ch else c

end Cursor

end DeadSymbols.Yaml
