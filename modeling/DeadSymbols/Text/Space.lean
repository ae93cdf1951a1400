/-!
# White space

The characters with the property White_Space, and the operations that strip them from the ends
of a text or split a text at them.

* `trimChars`, `trimEndChars`: a text without the white space at its ends, or at its end.
* `words`: the pieces between white space.
-/

namespace DeadSymbols.Text

/-- The property White_Space. -/
def isSpace (c : Char) : Bool :=
  let n := c.toNat
  (9 ≤ n && n ≤ 13) || n == 32 || n == 0x85 || n == 0xA0 || n == 0x1680 ||
    (0x2000 ≤ n && n ≤ 0x200A) || n == 0x2028 || n == 0x2029 || n == 0x202F ||
    n == 0x205F || n == 0x3000

/-- Drops the white space at the end. -/
def trimEndChars (cs : List Char) : List Char := (cs.reverse.dropWhile isSpace).reverse

/-- Drops the white space at both ends. -/
def trimChars (cs : List Char) : List Char := trimEndChars (cs.dropWhile isSpace)

/-- The pieces between white space; `word` is the piece being read, in reverse. -/
def wordsFrom (word : List Char) : List Char → List (List Char)
  | [] => if word.isEmpty then [] else [word.reverse]
  | c :: rest =>
    if isSpace c then
      if word.isEmpty then wordsFrom [] rest else word.reverse :: wordsFrom [] rest
    else
      wordsFrom (c :: word) rest

/-- The pieces of a text between runs of white space. -/
def words (s : String) : List String := (wordsFrom [] s.toList).map String.ofList

end DeadSymbols.Text
