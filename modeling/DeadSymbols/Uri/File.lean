import DeadSymbols.Path
import DeadSymbols.Text.Utf8

/-!
# File URIs

The `file:` URI of an absolute path: each part after a slash, every byte that may not stand in a
part as a percent sign and two hexadecimal digits. Double dots stay as they are.

* `ofFile?`: the URI of a file.
* `ofFolder?`: the URI of a folder, which ends in a slash.
-/

namespace DeadSymbols.Uri

/-- A hexadecimal digit in upper case. -/
def upperHex (n : Nat) : Char := (Nat.digitChar (n % 16)).toUpper

/-- Whether a byte is written as it is inside a part. -/
def isPlain (b : UInt8) : Bool :=
  0x20 < b && b < 0x7F &&
    !(b == 0x22 || b == 0x23 || b == 0x25 || b == 0x2F || b == 0x3C || b == 0x3E || b == 0x3F ||
      b == 0x5C || b == 0x60 || b == 0x7B || b == 0x7D)

/-- One byte of a part. -/
def byteChars (b : UInt8) : List Char :=
  if isPlain b then [Char.ofNat b.toNat]
  else ['%', upperHex (b.toNat / 16), upperHex b.toNat]

/-- One part of a path after its slash. -/
def partChars : Path.Part → List Char
  | .root | .here => []
  | .up => ['/', '.', '.']
  | .name s => '/' :: (Text.encode s).flatMap byteChars

/-- The URI of the file with an absolute path. -/
def ofFile? (path : String) : Option String :=
  if Path.isAbsolute path then
    let cs := (Path.parts path).flatMap partChars
    some ("file://" ++ String.ofList (if cs.isEmpty then ['/'] else cs))
  else
    none

/-- The URI of the folder with an absolute path. -/
def ofFolder? (path : String) : Option String :=
  (ofFile? path).map fun uri => if uri.toList.getLast? == some '/' then uri else uri ++ "/"

end DeadSymbols.Uri
