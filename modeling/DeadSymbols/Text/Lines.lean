import DeadSymbols.Text.Utf8

/-!
# Lines

* `lines`: the lines of some bytes, without the ends of the lines.
* `textLines`: the same as texts, up to the first line that is not UTF-8.
-/

namespace DeadSymbols.Text

/-- A line, given in reverse, without a carriage return before its end. -/
def endLine : List UInt8 → List UInt8
  | 13 :: rest => rest.reverse
  | line => line.reverse

/-- The lines of some bytes; `line` holds the start of the first one, in reverse. -/
def linesFrom (line : List UInt8) : List UInt8 → List (List UInt8)
  | [] => if line.isEmpty then [] else [line.reverse]
  | b :: rest => if b == 10 then endLine line :: linesFrom [] rest else linesFrom (b :: line) rest

/-- The lines of some bytes. A line feed ends a line, together with a carriage return before it. -/
def lines (bytes : List UInt8) : List (List UInt8) := linesFrom [] bytes

/-- The texts of some lines, up to the first that is none. -/
def decodeLines : List (List UInt8) → List String
  | [] => []
  | line :: rest =>
    match decode line with
    | .ok s => s :: decodeLines rest
    | .error _ => []

/-- The lines of some bytes as texts, up to the first that is not UTF-8. -/
def textLines (bytes : List UInt8) : List String := decodeLines (lines bytes)

end DeadSymbols.Text
