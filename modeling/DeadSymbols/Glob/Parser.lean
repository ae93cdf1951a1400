import DeadSymbols.Glob.Basic

/-!
# Reading globs

Besides stars and question marks, a pattern may hold classes of bytes in brackets, choices in
braces, and characters that a backslash makes literal.

* `Glob.parse?`: the pattern that a text stands for; none if the text is no pattern.
-/

namespace DeadSymbols.Glob

/-- A range of characters as ranges of bytes. A character of several bytes stands for each of
them; a range goes from the last byte of its first character to the first byte of its last. -/
def byteRanges (first last : Char) : List (UInt8 × UInt8) :=
  let low := Text.encode first.toString
  if first == last then low.map fun b => (b, b)
  else
    let high := Text.encode last.toString
    (low.dropLast.map fun b => (b, b)) ++
      (match low.getLast?, high with
        | some a, b :: rest => (a, b) :: rest.map fun b => (b, b)
        | _, _ => [])

/-- What is known of a class while it is read. -/
structure ClassState where
  /-- The ranges that were read, the last one first. -/
  ranges : List (Char × Char) := []
  /-- Whether a hyphen after the last range waits for the end of the range. -/
  waiting : Bool := false

/-- What a class turns out to be. -/
inductive ClassEnd where
  | closed (ranges : List (Char × Char)) (rest : List Char)
  | unclosed
  /-- A range whose end comes before its start. -/
  | invalid

/-- Ends an open range. -/
def ClassState.extend? (st : ClassState) (c : Char) : Option ClassState :=
  match st.ranges with
  | (a, _) :: rest => if c < a then none else some ⟨(a, c) :: rest, false⟩
  | [] => some ⟨[(c, c)], false⟩

/-- Reads the rest of a class. A bracket or hyphen that comes first is a member. -/
def readClass (first : Bool) (st : ClassState) : List Char → ClassEnd
  | [] => .unclosed
  | c :: rest =>
    if c == ']' && !first then
      .closed (if st.waiting then ('-', '-') :: st.ranges else st.ranges).reverse rest
    else if c == '-' && !first && !st.waiting then
      readClass false { st with waiting := true } rest
    else if st.waiting then
      match st.extend? c with
      | some st => readClass false st rest
      | none => .invalid
    else
      readClass false { st with ranges := (c, c) :: st.ranges } rest

/-- A choice that is being read. -/
structure Frame where
  /-- The branches that were read, the last one first. -/
  done : List (List Token) := []
  /-- The tokens of the branch being read, the last one first. -/
  current : List Token := []

/-- The innermost choice that is being read, or the pattern itself, and those around it. -/
structure ParseState where
  inner : Frame := {}
  outer : List Frame := []
  /-- Whether brackets stand for themselves, because one before them was not closed. -/
  plainBrackets : Bool := false

namespace ParseState

/-- Adds a token. -/
def push (st : ParseState) (t : Token) : ParseState :=
  { st with inner := { st.inner with current := t :: st.inner.current } }

/-- Whether a choice is being read. -/
def isNested (st : ParseState) : Bool := !st.outer.isEmpty

/-- Puts a token that stands for any number of parts in the place of the slash before it, unless
there is such a token already. -/
def pushParts (st : ParseState) (t : Token) : ParseState :=
  match st.inner.current with
  | .anyStart :: _ | .anyEnd :: _ => st
  | _ :: rest => { st with inner := { st.inner with current := t :: rest } }
  | [] => st.push t

/-- Ends the innermost choice. -/
def close? (st : ParseState) : Option ParseState :=
  match st.outer with
  | [] => none
  | frame :: outer =>
    let branches := (st.inner.current.reverse :: st.inner.done).reverse
    some { st with
      inner := { frame with current := .oneOfAll branches :: frame.current }, outer := outer }

/-- Begins the next branch of the innermost choice. -/
def nextBranch (st : ParseState) : ParseState :=
  { st with inner := ⟨st.inner.current.reverse :: st.inner.done, []⟩ }

/-- Reads what follows two stars; `before` is the character in front of them. Gives the character
that was read last, too. -/
def stars (st : ParseState) (before : Option Char) (cs : List Char) :
    ParseState × Option Char × List Char :=
  let plain := ((st.push .star).push .star, some '*', cs)
  if st.inner.current.isEmpty then
    match cs with
    | [] => (st.push .anyStart, none, [])
    | '/' :: rest => (st.push .anyStart, some '/', rest)
    | _ => plain
  else if before != some '/' &&
      (!st.isNested || (before != some ',' && before != some '\x7b')) then
    plain
  else
    match cs with
    | [] => (st.pushParts .anyEnd, none, [])
    | '/' :: rest => (st.pushParts .anyMiddle, some '/', rest)
    | c :: _ =>
      if st.isNested && (c == ',' || c == '\x7d') then (st.pushParts .anyEnd, some '*', cs)
      else plain

end ParseState

/-- Reads tokens; `before` is the character in front of them. If `lenient` is set, a bracket that
is not closed stands for itself. Each step takes a character, so their number bounds the steps. -/
def parseFrom (lenient : Bool) : Nat → ParseState → Option Char → List Char → Option ParseState
  | 0, st, _, _ => some st
  | _, st, _, [] => some st
  | fuel + 1, st, before, c :: rest =>
    match c with
    | '?' => parseFrom lenient fuel (st.push .any) (some c) rest
    | '*' =>
      match rest with
      | '*' :: rest =>
        let (st, last, rest) := st.stars before rest
        parseFrom lenient fuel st last rest
      | _ => parseFrom lenient fuel (st.push .star) (some c) rest
    | '[' =>
      if st.plainBrackets then parseFrom lenient fuel (st.push (.literal c)) (some c) rest
      else
        let (negated, body) := match rest with
          | '!' :: body | '^' :: body => (true, body)
          | _ => (false, rest)
        match readClass true {} body with
        | .closed ranges rest =>
          let t := Token.oneOf negated (ranges.flatMap fun r => byteRanges r.1 r.2)
          parseFrom lenient fuel (st.push t) (some ']') rest
        | .unclosed =>
          if lenient then
            parseFrom lenient fuel ({ st with plainBrackets := true }.push (.literal c)) (some c)
              rest
          else none
        | .invalid => none
    | '\x7b' =>
      parseFrom lenient fuel { st with inner := {}, outer := st.inner :: st.outer } (some c) rest
    | '\x7d' => (st.close?).bind fun st => parseFrom lenient fuel st (some c) rest
    | ',' =>
      if st.isNested then parseFrom lenient fuel st.nextBranch (some c) rest
      else parseFrom lenient fuel (st.push (.literal c)) (some c) rest
    | '\\' =>
      match rest with
      | [] => none
      | e :: rest => parseFrom lenient fuel (st.push (.literal e)) (some e) rest
    | _ => parseFrom lenient fuel (st.push (.literal c)) (some c) rest

/-- The pattern that a text stands for. -/
def parse? (lenient : Bool) (cs : List Char) : Option Glob := do
  let st ← parseFrom lenient cs.length {} none cs
  if st.isNested then none else some ⟨st.inner.current.reverse⟩

end DeadSymbols.Glob
