import DeadSymbols.Fault
import DeadSymbols.Json.Parser
import DeadSymbols.Text.Natural
import DeadSymbols.Text.Space

/-!
# Frames

Messages on a stream of bytes: a header of lines that gives the length of the body, a blank line,
and the body, a JSON text.

* `Frame.bytes`: the frame of a message.
* `Frame.next?`: the first thing that some bytes hold, and the bytes after it; none if more bytes
  are needed to tell.
* `Frame.read`: the same for bytes after which the stream ends.
-/

namespace DeadSymbols

/-- What is read from a stream. -/
inductive Item where
  | message (value : Json)
  | fault (cause : Fault)
  /-- The stream ended between two frames. -/
  | finish

namespace Frame

/-- The longest body that is accepted, in bytes. -/
def maxLength : Nat := 64 * 1024 * 1024

/-- The frame of a body. -/
def ofBody (body : List UInt8) : List UInt8 :=
  Text.encode s!"Content-Length: {body.length}\r\n\r\n" ++ body

/-- The frame of a message. -/
def bytes (message : Json) : List UInt8 := ofBody (Text.encode message.compact)

/-- The length that a line of a header gives. The name of the field may be in any letter case. -/
def lengthOf? (line : List Char) : Option Nat :=
  match line.dropWhile (· != ':') with
  | ':' :: value =>
    let name := Text.trimChars (line.takeWhile (· != ':'))
    if name.map Char.toLower == "content-length".toList then
      Text.natural? Text.maxUInt64 (String.ofList (Text.trimChars value))
    else
      none
  | _ => none

/-- What a line makes of a header. -/
inductive Header where
  /-- The header goes on; the length is known if some line gave it. -/
  | more (length : Option Nat)
  /-- The header is complete. -/
  | body (length : Nat)
  | fault (cause : Fault)

/-- Reads one line, its end included, in a header that so far gave `length`. A blank line ends a
header that gave a length; before that it is passed over. -/
def Header.ofLine (length : Option Nat) (line : List UInt8) : Header :=
  match Text.decode line with
  | .error place => .fault (.io (.badUtf8 place))
  | .ok s =>
    let cs := Text.trimChars s.toList
    if cs.isEmpty then
      match length with
      | some n => .body n
      | none => .more none
    else
      .more ((lengthOf? cs).or length)

/-- Reads a body of `length` bytes. If `ended`, the stream has no bytes beyond the given ones. -/
def readBody (ended : Bool) (length : Nat) (rest : List UInt8) : Option (Item × List UInt8) :=
  if maxLength < length then
    some (.fault (.protocol (.oversized length maxLength)), rest)
  else if rest.length < length then
    if ended then some (.fault (.io .earlyEnd), []) else none
  else
    match Json.ofBytes? (rest.take length) with
    | some value => some (.message value, rest.drop length)
    | none => some (.fault .json, rest.drop length)

/-- What the end of the stream makes of a header that gave `length`, when no line is open. -/
def endOfHeader (length : Option Nat) : Item :=
  if length.isNone then .finish else .fault .closed

/-- Reads a frame whose header so far gave `length`; `line` holds the bytes of the line being
read, in reverse. -/
def readFrom (ended : Bool) (length : Option Nat) (line : List UInt8) :
    List UInt8 → Option (Item × List UInt8)
  | [] =>
    if !ended then none
    else if line.isEmpty then some (endOfHeader length, [])
    else
      match Header.ofLine length line.reverse with
      | .more length => some (endOfHeader length, [])
      | .body n => readBody true n []
      | .fault cause => some (.fault cause, [])
  | b :: rest =>
    if b == 10 then
      match Header.ofLine length (b :: line).reverse with
      | .more length => readFrom ended length [] rest
      | .body n => readBody ended n rest
      | .fault cause => some (.fault cause, rest)
    else
      readFrom ended length (b :: line) rest

/-- The first item of a stream of which more bytes may come. -/
def next? (bytes : List UInt8) : Option (Item × List UInt8) := readFrom false none [] bytes

/-- The first item of a stream that ends after the given bytes, and the bytes after it. -/
def read (bytes : List UInt8) : Item × List UInt8 :=
  (readFrom true none [] bytes).getD (.finish, [])

/-- The items of several reads, one after another, on a stream that ends after the given bytes. -/
def readMany : Nat → List UInt8 → List Item
  | 0, _ => []
  | n + 1, bytes =>
    let (item, rest) := read bytes
    item :: readMany n rest

end Frame

end DeadSymbols
