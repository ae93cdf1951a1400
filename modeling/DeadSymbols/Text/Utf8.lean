/-!
# UTF-8

Texts as bytes. `decode` refuses bytes that no text encodes to and says where they go wrong: the
index of the first byte that belongs to no character, and how many bytes from there are wrong, or
that the bytes end inside a character.

* `encode`: the bytes of a text.
* `decode`: the text of some bytes, or the first fault in them.
-/

namespace DeadSymbols.Text

/-- Where bytes stop being UTF-8. -/
structure Utf8Fault where
  /-- The number of bytes before the fault. -/
  index : Nat
  /-- How many bytes are wrong; none if the bytes end inside a character. -/
  length : Option Nat
deriving DecidableEq, Repr

/-- The bytes of a text. -/
def encode (s : String) : List UInt8 := s.toUTF8.data.toList

/-- A byte that continues a character. -/
def isTail (b : UInt8) : Bool := 0x80 ≤ b && b ≤ 0xBF

/-- A first byte together with a second byte that may follow it in a character of three or four
bytes. -/
def isSecond (first second : UInt8) : Bool :=
  if first == 0xE0 then 0xA0 ≤ second && second ≤ 0xBF
  else if first == 0xED then 0x80 ≤ second && second ≤ 0x9F
  else if first == 0xF0 then 0x90 ≤ second && second ≤ 0xBF
  else if first == 0xF4 then 0x80 ≤ second && second ≤ 0x8F
  else isTail second

/-- The fault in the character that starts with `b`, of which the rest of the bytes is given: the
number of wrong bytes, or the length of the character if it has no fault. -/
def charFault (b : UInt8) (rest : List UInt8) : Option Nat ⊕ Nat :=
  if b < 0x80 then
    .inr 1
  else if 0xC2 ≤ b && b ≤ 0xDF then
    match rest with
    | [] => .inl none
    | c :: _ => if isTail c then .inr 2 else .inl (some 1)
  else if 0xE0 ≤ b && b ≤ 0xEF then
    match rest with
    | [] => .inl none
    | c :: rest =>
      if !isSecond b c then .inl (some 1) else
      match rest with
      | [] => .inl none
      | d :: _ => if isTail d then .inr 3 else .inl (some 2)
  else if 0xF0 ≤ b && b ≤ 0xF4 then
    match rest with
    | [] => .inl none
    | c :: rest =>
      if !isSecond b c then .inl (some 1) else
      match rest with
      | [] => .inl none
      | d :: rest =>
        if !isTail d then .inl (some 2) else
        match rest with
        | [] => .inl none
        | e :: _ => if isTail e then .inr 4 else .inl (some 3)
  else
    .inl (some 1)

/-- The first fault after `index` bytes that have none; `skip` bytes belong to a character
already read. Bytes without a fault count as ending at their end. -/
def faultFrom (index skip : Nat) : List UInt8 → Utf8Fault
  | [] => ⟨index, none⟩
  | b :: rest =>
    match skip with
    | skip + 1 => faultFrom (index + 1) skip rest
    | 0 =>
      match charFault b rest with
      | .inl length => ⟨index, length⟩
      | .inr n => faultFrom (index + 1) (n - 1) rest

/-- The text of some bytes, or the first fault in them. -/
def decode (bytes : List UInt8) : Except Utf8Fault String :=
  match String.fromUTF8? ⟨bytes.toArray⟩ with
  | some s => .ok s
  | none => .error (faultFrom 0 0 bytes)

/-- Says where the fault is. -/
def Utf8Fault.message (fault : Utf8Fault) : String :=
  match fault.length with
  | some n => s!"invalid utf-8 sequence of {n} bytes from index {fault.index}"
  | none => s!"incomplete utf-8 byte sequence from index {fault.index}"

end DeadSymbols.Text
