import DeadSymbols.Yaml.Scalar

/-!
# Tokens of YAML

Indentation becomes tokens that open and close blocks. A key needs no mark of its own: its tokens
are put in front of it when the colon after it is found, which has to be on the same line and not
too far away.

* `tokens?`: the tokens of a text; none if the text has none.
-/

namespace DeadSymbols.Yaml

/-- A token. -/
inductive Token where
  | version (major minor : Nat)
  /-- What a handle of tags stands for. -/
  | handle (name expansion : String)
  | documentStart
  | documentEnd
  | blockSequence
  | blockMapping
  | blockEnd
  | flowSequence
  | flowSequenceEnd
  | flowMapping
  | flowMappingEnd
  | blockEntry
  | flowEntry
  | key
  | value
  | alias (name : String)
  | anchor (name : String)
  | tag (handle suffix : String)
  | scalar (style : Style) (value : String)
deriving BEq, Repr

/-- A place where a key may have begun. -/
structure KeyPlace where
  /-- Whether there has to be a key. -/
  required : Bool
  /-- How many tokens were there before. -/
  number : Nat
  index : Nat
  line : Nat
  column : Nat

/-- The state of a lexer. -/
structure Lexer where
  cursor : Cursor
  /-- The tokens that were read, in reverse. -/
  tokens : List Token := []
  count : Nat := 0
  /-- The column of the innermost block, none outside of blocks. -/
  indent : Option Nat := none
  /-- The columns of the blocks around it. -/
  outer : List (Option Nat) := []
  /-- Whether a key may begin here. -/
  keyAllowed : Bool := true
  /-- Where the innermost key may have begun. -/
  place : Option KeyPlace := none
  /-- The same for each bracket that is open. -/
  outerPlaces : List (Option KeyPlace) := []

namespace Lexer

/-- Whether a bracket is open. -/
def inFlow (l : Lexer) : Bool := !l.outerPlaces.isEmpty

/-- Adds a token. -/
def push (l : Lexer) (t : Token) : Lexer :=
  { l with tokens := t :: l.tokens, count := l.count + 1 }

/-- Puts a token in front of all but the first `n` tokens. -/
def insert (l : Lexer) (n : Nat) (t : Token) : Lexer :=
  let later := l.count - n
  { l with tokens := l.tokens.take later ++ t :: l.tokens.drop later, count := l.count + 1 }

/-- Opens a block at a column, if that is deeper than the innermost block. The token goes in front
of all but the first `n` tokens. -/
def openBlock (l : Lexer) (column n : Nat) (t : Token) : Lexer :=
  if l.inFlow then l
  else if l.indent.all (· < column) then
    { l with indent := some column, outer := l.indent :: l.outer }.insert n t
  else l

/-- Closes the blocks that are deeper than a column. -/
def closeBlocks (column : Option Nat) : List (Option Nat) → Lexer → Lexer
  | outer, l =>
    match l.indent with
    | none => l
    | some n =>
      if column.any (n ≤ ·) then l
      else
        match outer with
        | [] => { l with indent := none, outer := [] }.push .blockEnd
        | next :: rest =>
          closeBlocks column rest ({ l with indent := next, outer := rest }.push .blockEnd)

/-- Closes the blocks that are deeper than a column, or all; between brackets there is nothing to
close. -/
def unroll (l : Lexer) (column : Option Nat) : Lexer :=
  if l.inFlow then l else closeBlocks column l.outer l

/-- Forgets where a key may have begun; fails if there has to be one. -/
def dropPlace? (l : Lexer) : Option Lexer :=
  if l.place.any (·.required) then none else some { l with place := none }

/-- Remembers that a key may begin here, if so. -/
def savePlace? (l : Lexer) : Option Lexer :=
  if l.keyAllowed then
    let c := l.cursor
    let required := !l.inFlow && l.indent == some c.column
    l.dropPlace?.map fun l =>
      { l with place := some ⟨required, l.count, c.index, c.line, c.column⟩ }
  else some l

/-- How far a colon may be from the start of its key. -/
def maxKeyLength : Nat := 1024

/-- Whether a colon here would be too late for a key. -/
def isStale (c : Cursor) (p : KeyPlace) : Bool :=
  p.line < c.line || p.index + maxKeyLength < c.index

/-- Forgets the places that are too far away; fails if one of them needs a key. -/
def dropStale? (l : Lexer) : Option Lexer :=
  let check (p : Option KeyPlace) : Option (Option KeyPlace) :=
    match p with
    | none => some none
    | some q => if isStale l.cursor q then (if q.required then none else some none) else some p
  match check l.place, l.outerPlaces.mapM check with
  | some place, some outer => some { l with place := place, outerPlaces := outer }
  | _, _ => none

/-- Goes on at another place. -/
def moveTo (l : Lexer) (c : Cursor) : Lexer := { l with cursor := c }

/-- Passes over blanks, comments and empty lines. A tab may not stand where a key may begin. -/
def toNext : Nat → Lexer → Lexer
  | 0, l => l
  | fuel + 1, l =>
    let tabs := l.inFlow || !l.keyAllowed
    let c := l.cursor
    let c := if c.index == 0 && c.peek 0 == some (Char.ofNat 0xFEFF) then c.skip else c
    let c := (c.skipWhile fun ch => ch == ' ' || (tabs && ch == '\t')).skipComment
    if (c.peek 0).any isBreak then
      toNext fuel { l with cursor := c.takeBreak.2, keyAllowed := l.keyAllowed || !l.inFlow }
    else l.moveTo c

/-! ## Directives -/

/-- Reads a number of at most nine digits. -/
def number? (c : Cursor) : Option (Nat × Cursor) :=
  let (ds, c) := c.span Char.isDigit
  if ds.isEmpty || 9 < ds.length then none else some (Json.digitsValue ds, c)

/-- A character of a tag. -/
def isTagChar (verbatim : Bool) (ch : Char) : Bool :=
  isWord ch || ";/?:@&=+$.!~*'()".toList.contains ch ||
    (verbatim && (ch == ',' || ch == '[' || ch == ']'))

/-- Reads bytes that are written as percent signs and two digits each. -/
def octets? : Nat → List Char → Option (List Nat × List Char)
  | 0, cs => some ([], cs)
  | n + 1, '%' :: a :: b :: rest => do
    let octet := (← Json.hexValue? a) * 16 + (← Json.hexValue? b)
    let (more, rest) ← octets? n rest
    some (octet :: more, rest)
  | _, _ => none

/-- How many bytes a character has that starts with a byte. -/
def octetCount? (n : Nat) : Option Nat :=
  if n < 0x80 then some 1
  else if 0xC0 ≤ n && n < 0xE0 then some 2
  else if 0xE0 ≤ n && n < 0xF0 then some 3
  else if 0xF0 ≤ n && n < 0xF8 then some 4
  else none

/-- Reads a character that is written byte by byte. Bytes beyond ASCII are kept apart, as they tell
only that a tag is not one of the known ones. -/
def escapedChar? (c : Cursor) : Option (List Char × Cursor) := do
  let (first, _) ← octets? 1 c.rest
  let n ← octetCount? (← first.head?)
  let (all, _) ← octets? n c.rest
  if !(all.drop 1).all (fun o => 0x80 ≤ o && o < 0xC0) then none
  some (all.map Char.ofNat, c.advance (3 * n))

/-- Reads the characters of a tag. -/
def tagChars? (verbatim : Bool) : Nat → List Char → Cursor → Option (List Char × Cursor)
  | 0, done, c => some (done.reverse, c)
  | fuel + 1, done, c =>
    match c.peek 0 with
    | none => some (done.reverse, c)
    | some ch =>
      if ch == '%' then
        match escapedChar? c with
        | none => none
        | some (cs, c) => tagChars? verbatim fuel (cs.reverse ++ done) c
      else if isTagChar verbatim ch then tagChars? verbatim fuel (ch :: done) c.skip
      else some (done.reverse, c)

/-- Reads the characters of a tag, of which there has to be one unless some were read before. -/
def tagText? (verbatim mayBeEmpty : Bool) (c : Cursor) : Option (List Char × Cursor) :=
  match tagChars? verbatim c.rest.length [] c with
  | some ([], c) => if mayBeEmpty then some ([], c) else none
  | r => r

/-- Reads a handle: an exclamation mark, a word, and perhaps another mark. -/
def handleText? (c : Cursor) : Option (List Char × Cursor) :=
  if c.peek 0 != some '!' then none
  else
    let (name, c) := c.skip.span isWord
    if c.peek 0 == some '!' then some ('!' :: name ++ ['!'], c.skip)
    else some ('!' :: name, c)

/-- Reads a directive, after its percent sign. -/
def directive? (c : Cursor) : Option (Token × Cursor) := do
  let (name, c) := c.span isWord
  if name.isEmpty || !c.atBlank 0 then none
  let c := c.skipWhile isBlank
  let (t, c) ←
    if name == "YAML".toList then do
      let (major, c) ← number? c
      if c.peek 0 != some '.' then none
      let (minor, c) ← number? c.skip
      some (Token.version major minor, c)
    else if name == "TAG".toList then do
      let (handle, c) ← handleText? c
      if handle != ['!'] && (handle.getLast? != some '!') then none
      if !(c.peek 0).any isBlank then none
      let (expansion, c) ← tagText? true false (c.skipWhile isBlank)
      if !c.atBlank 0 then none
      some (Token.handle (String.ofList handle) (String.ofList expansion), c)
    else none
  let c := (c.skipWhile isBlank).skipComment
  if !c.atBreak 0 then none
  some (t, c.takeBreak.2)

/-! ## Anchors and tags -/

/-- Reads the name of an anchor or alias, after its mark. -/
def anchorName? (c : Cursor) : Option (String × Cursor) :=
  let (name, c) := c.span isWord
  let ends := c.atBlank 0 || (c.peek 0).any ("?:,]\x7d%@\x60".toList.contains ·)
  if name.isEmpty || !ends then none else some (String.ofList name, c)

/-- Reads a tag. -/
def tag? (flow : Bool) (c : Cursor) : Option (Token × Cursor) := do
  let (t, c) ←
    if c.peek 1 == some '<' then do
      let (name, c) ← tagText? true false (c.advance 2)
      if c.peek 0 != some '>' then none
      some (Token.tag "" (String.ofList name), c.skip)
    else do
      let (handle, after) ← handleText? c
      if 1 < handle.length && handle.getLast? == some '!' then
        let (suffix, c) ← tagText? false false after
        some (Token.tag (String.ofList handle) (String.ofList suffix), c)
      else
        let (more, c) ← tagText? false true after
        let suffix := handle.drop 1 ++ more
        if suffix.isEmpty then some (Token.tag "" "!", c)
        else some (Token.tag "!" (String.ofList suffix), c)
  if c.atBlank 0 || (flow && c.peek 0 == some ',') then some (t, c) else none

/-! ## Steps -/

/-- Reads a token with which a key may begin. -/
def keyToken (l : Lexer) (read : Cursor → Option (Token × Cursor)) : Option Lexer := do
  let l ← l.savePlace?
  let (t, c) ← read l.cursor
  some (({ l with keyAllowed := false }.moveTo c).push t)

/-- Reads a mark of some characters, with which no key may begin. -/
def mark? (l : Lexer) (length : Nat) (keyAllowed : Bool) (t : Token) : Option Lexer :=
  l.dropPlace?.map fun l =>
    ({ l with keyAllowed := keyAllowed }.moveTo (l.cursor.advance length)).push t

/-- Reads an opening bracket. -/
def openBracket? (l : Lexer) (t : Token) : Option Lexer :=
  l.savePlace?.map fun l =>
    ({ l with keyAllowed := true, outerPlaces := l.place :: l.outerPlaces, place := none }.moveTo
      l.cursor.skip).push t

/-- Reads a closing bracket. -/
def closeBracket? (l : Lexer) (t : Token) : Option Lexer :=
  l.dropPlace?.map fun l =>
    let l := match l.outerPlaces with
      | [] => l
      | place :: rest => { l with place := place, outerPlaces := rest }
    ({ l with keyAllowed := false }.moveTo l.cursor.skip).push t

/-- Reads the mark of an entry or a key of a block. -/
def blockMark? (l : Lexer) (opening t : Token) (keyAllowed : Bool) : Option Lexer :=
  if !l.inFlow && !l.keyAllowed then none
  else (l.openBlock l.cursor.column l.count opening).mark? 1 keyAllowed t

/-- Reads the colon before a value. -/
def valueMark? (l : Lexer) : Option Lexer :=
  match l.place with
  | some p =>
    let l := (l.insert p.number .key).openBlock p.column p.number .blockMapping
    let l := { l with place := none, keyAllowed := false }
    some ((l.moveTo l.cursor.skip).push .value)
  | none =>
    if !l.inFlow && !l.keyAllowed then none
    else
      let l := l.openBlock l.cursor.column l.count .blockMapping
      let l := { l with keyAllowed := !l.inFlow }
      some ((l.moveTo l.cursor.skip).push .value)

/-- Reads a block scalar. -/
def blockScalar? (l : Lexer) (folded : Bool) : Option Lexer := do
  let l ← l.dropPlace?
  let (text, c) ← block? folded l.indent l.cursor.skip
  let style := if folded then Style.folded else .literal
  some (({ l with keyAllowed := true }.moveTo c).push (.scalar style (String.ofList text)))

/-- Reads a scalar in quotes. -/
def quotedScalar? (l : Lexer) (quote : Char) (style : Style) : Option Lexer :=
  l.keyToken fun c => (quoted? quote c.skip).map fun (text, c) =>
    (.scalar style (String.ofList text), c)

/-- Reads a plain scalar. A key may begin after it if it ends with its line. -/
def plainScalar? (l : Lexer) : Option Lexer := do
  let l ← l.savePlace?
  let indent := match l.indent with
    | some n => n + 1
    | none => 0
  let (text, broken, c) ← plain? l.inFlow indent l.cursor
  some (({ l with keyAllowed := broken }.moveTo c).push (.scalar .plain (String.ofList text)))

/-- Whether a plain scalar may start here. -/
def startsPlain (l : Lexer) : Bool :=
  let c := l.cursor
  match c.peek 0 with
  | none => false
  | some ch =>
    !(c.atBlank 0 || "-?:,[]\x7b\x7d#&*!|>'\x22%@\x60".toList.contains ch) ||
      (ch == '-' && !(c.peek 1).any isBlank) ||
      (!l.inFlow && (ch == '?' || ch == ':') && !c.atBlank 1)

/-- Ends the text. -/
def finish? (l : Lexer) : Option Lexer := (l.unroll none).dropPlace?

/-- Reads a directive, or the mark of a document. -/
def atMargin? (l : Lexer) : Option (Option Lexer) :=
  let c := l.cursor
  let l' := l.unroll none
  if c.column != 0 then none
  else if c.peek 0 == some '%' then
    some do
      let l ← l'.dropPlace?
      let (t, c) ← directive? l.cursor.skip
      some (({ l with keyAllowed := false }.moveTo c).push t)
  else if c.atDocumentMark then
    some (l'.mark? 3 false (if c.peek 0 == some '-' then .documentStart else .documentEnd))
  else none

/-- Reads the next token, of which the first character is `ch`. -/
def step? (l : Lexer) (ch : Char) : Option Lexer :=
  let c := l.cursor
  match l.atMargin? with
  | some r => r
  | none =>
    if ch == '[' then l.openBracket? .flowSequence
    else if ch == '\x7b' then l.openBracket? .flowMapping
    else if ch == ']' then l.closeBracket? .flowSequenceEnd
    else if ch == '\x7d' then l.closeBracket? .flowMappingEnd
    else if ch == ',' then l.mark? 1 true .flowEntry
    else if ch == '-' && c.atBlank 1 then l.blockMark? .blockSequence .blockEntry true
    else if ch == '?' && (l.inFlow || c.atBlank 1) then l.blockMark? .blockMapping .key (!l.inFlow)
    else if ch == ':' && (l.inFlow || c.atBlank 1) then l.valueMark?
    else if ch == '*' then
      l.keyToken fun c => (anchorName? c.skip).map fun (name, c) => (.alias name, c)
    else if ch == '&' then
      l.keyToken fun c => (anchorName? c.skip).map fun (name, c) => (.anchor name, c)
    else if ch == '!' then l.keyToken (tag? l.inFlow)
    else if ch == '|' && !l.inFlow then l.blockScalar? false
    else if ch == '>' && !l.inFlow then l.blockScalar? true
    else if ch == '\'' then l.quotedScalar? '\'' .single
    else if ch == '\x22' then l.quotedScalar? '\x22' .double
    else if l.startsPlain then l.plainScalar?
    else none

/-- Reads all tokens. Each step takes a character at least. -/
def run? : Nat → Lexer → Option Lexer
  | 0, _ => none
  | fuel + 1, l =>
    match (toNext (l.cursor.rest.length + 1) l).dropStale? with
    | none => none
    | some l =>
      let l := l.unroll (some l.cursor.column)
      match l.cursor.rest with
      | [] => l.finish?
      | ch :: _ => (l.step? ch).bind (run? fuel)

end Lexer

/-- The tokens of a text. -/
def tokens? (s : String) : Option (List Token) :=
  let cs := s.toList
  if cs.all isAllowed then
    (Lexer.run? (cs.length + 2) { cursor := ⟨cs, 0, 0, 0⟩ }).map fun l => l.tokens.reverse
  else
    none

end DeadSymbols.Yaml
