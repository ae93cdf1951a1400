import DeadSymbols.Json.Parser
import DeadSymbols.Yaml.Cursor

/-!
# Scalars of YAML

A scalar may be plain, in quotes, or a block of lines. The ends of lines inside it are folded: one
becomes a space, of several the first goes away, and blanks around them are dropped. A literal
block keeps its lines.

* `plain?`, `quoted?`, `block?`: the text of a scalar.
-/

namespace DeadSymbols.Yaml

/-- How a scalar is written. -/
inductive Style where
  | plain
  | single
  | double
  | literal
  | folded
deriving DecidableEq, Repr

/-- Blanks and ends of lines between two words. -/
structure Gap where
  /-- The blanks before the first end of a line. -/
  blanks : List Char := []
  /-- Whether there is an end of a line, or one that a backslash takes away. -/
  broken : Bool := false
  /-- The first end of a line. -/
  first : List Char := []
  /-- The later ends of lines. -/
  more : List Char := []

/-- The ends of lines after folding. -/
def foldBreaks (first more : List Char) : List Char :=
  if first == ['\n'] then (if more.isEmpty then [' '] else more) else first ++ more

/-- What a gap stands for. -/
def Gap.text (g : Gap) : List Char := if g.broken then foldBreaks g.first g.more else g.blanks

/-- Reads a gap. A tab that stands in the place of indentation is refused, if there is to be any. -/
def gap? (indent : Option Nat) : Nat → Gap → Cursor → Option (Gap × Cursor)
  | 0, g, c => some (g, c)
  | fuel + 1, g, c =>
    match c.rest with
    | [] => some (g, c)
    | ch :: _ =>
      if isBlank ch then
        if g.broken && ch == '\t' && indent.any (c.column < ·) then none
        else if g.broken then gap? indent fuel g c.skip
        else gap? indent fuel { g with blanks := g.blanks ++ [ch] } c.skip
      else if isBreak ch then
        let (s, next) := c.takeBreak
        if g.broken then gap? indent fuel { g with more := g.more ++ s } next
        else gap? indent fuel { g with broken := true, first := s } next
      else
        some (g, c)

/-! ## Plain scalars -/

/-- Whether a character has a meaning of its own between brackets. -/
def isFlowMark (ch : Char) : Bool :=
  ch == ',' || ch == '[' || ch == ']' || ch == '\x7b' || ch == '\x7d'

/-- Reads one word of a plain scalar; `done` holds what was read, in reverse. A colon between
brackets may not stand right before a mark. -/
def plainWord? (flow : Bool) : Nat → List Char → Cursor → Option (List Char × Cursor)
  | 0, done, c => some (done, c)
  | fuel + 1, done, c =>
    match c.rest with
    | [] => some (done, c)
    | ch :: _ =>
      if c.atBlank 0 then some (done, c)
      else if flow && ch == ':' && (c.peek 1).any (fun d => isFlowMark d || d == '?') then none
      else if (ch == ':' && c.atBlank 1) || (flow && isFlowMark ch) then some (done, c)
      else plainWord? flow fuel (ch :: done) c.skip

/-- Reads the words of a plain scalar; `gap` is what was read after the last one. Also tells
whether the scalar ends after the end of a line. -/
def plainFrom? (flow : Bool) (indent : Nat) :
    Nat → List Char → Gap → Cursor → Option (List Char × Bool × Cursor)
  | 0, done, gap, c => some (done.reverse, gap.broken, c)
  | fuel + 1, done, gap, c =>
    if c.atDocumentMark || c.peek 0 == some '#' then some (done.reverse, gap.broken, c)
    else
      match plainWord? flow c.rest.length [] c with
      | none => none
      | some ([], c) => some (done.reverse, gap.broken, c)
      | some (word, c) =>
        let done := word ++ gap.text.reverse ++ done
        if (c.peek 0).all fun ch => !(isBlank ch || isBreak ch) then
          some (done.reverse, false, c)
        else
          match gap? (some indent) c.rest.length {} c with
          | none => none
          | some (gap, c) =>
            if !flow && c.column < indent then some (done.reverse, gap.broken, c)
            else plainFrom? flow indent fuel done gap c

/-- Reads a plain scalar. -/
def plain? (flow : Bool) (indent : Nat) (c : Cursor) : Option (List Char × Bool × Cursor) :=
  plainFrom? flow indent (c.rest.length + 1) [] {} c

/-! ## Scalars in quotes -/

/-- The character that a letter after a backslash stands for. -/
def escaped? (ch : Char) : Option Char :=
  match ch with
  | '0' => some (Char.ofNat 0)
  | 'a' => some (Char.ofNat 7)
  | 'b' => some (Char.ofNat 8)
  | 't' | '\t' => some '\t'
  | 'n' => some '\n'
  | 'v' => some (Char.ofNat 11)
  | 'f' => some (Char.ofNat 12)
  | 'r' => some '\r'
  | 'e' => some (Char.ofNat 27)
  | ' ' | '\x22' | '/' | '\\' => some ch
  | 'N' => some (Char.ofNat 0x85)
  | '_' => some (Char.ofNat 0xA0)
  | 'L' => some (Char.ofNat 0x2028)
  | 'P' => some (Char.ofNat 0x2029)
  | _ => none

/-- How many hexadecimal digits a letter after a backslash announces. -/
def escapeLength? (ch : Char) : Option Nat :=
  match ch with
  | 'x' => some 2
  | 'u' => some 4
  | 'U' => some 8
  | _ => none

/-- The character with a code of hexadecimal digits. -/
def charOfHex? (digits : List Char) : Option Char :=
  (digits.mapM Json.hexValue?).bind fun ds =>
    let n := ds.foldl (fun n d => n * 16 + d) 0
    if n.isValidChar then some (Char.ofNat n) else none

/-- Reads an escape, after its backslash. -/
def escape? (c : Cursor) : Option (Char × Cursor) := do
  let ch ← c.peek 0
  match escapeLength? ch with
  | some n =>
    let digits := (c.rest.drop 1).take n
    if digits.length != n then none
    some (← charOfHex? digits, c.advance (n + 1))
  | none => some (← escaped? ch, c.skip)

/-- Reads one word of a scalar in quotes; `done` holds what was read, in reverse. Also tells whether
it ends with an end of a line that a backslash takes away. -/
def quotedWord? (quote : Char) : Nat → List Char → Cursor → Option (List Char × Bool × Cursor)
  | 0, done, c => some (done, false, c)
  | fuel + 1, done, c =>
    match c.rest with
    | [] => some (done, false, c)
    | ch :: rest =>
      if c.atBlank 0 then some (done, false, c)
      else if ch == quote then
        if quote == '\'' && rest.head? == some '\'' then
          quotedWord? quote fuel ('\'' :: done) (c.advance 2)
        else some (done, false, c)
      else if ch == '\\' && quote != '\'' then
        if !rest.isEmpty && c.atBreak 1 then some (done, true, c.skip.takeBreak.2)
        else
          match escape? c.skip with
          | none => none
          | some (e, c) => quotedWord? quote fuel (e :: done) c
      else
        quotedWord? quote fuel (ch :: done) c.skip

/-- Reads the words of a scalar up to its closing quote. -/
def quotedFrom? (quote : Char) : Nat → List Char → Cursor → Option (List Char × Cursor)
  | 0, _, _ => none
  | fuel + 1, done, c =>
    if c.atDocumentMark || c.rest.isEmpty then none
    else
      match quotedWord? quote c.rest.length done c with
      | none => none
      | some (done, taken, c) =>
        if c.peek 0 == some quote then some (done.reverse, c.skip)
        else
          match gap? none c.rest.length { broken := taken } c with
          | none => none
          | some (gap, c) => quotedFrom? quote fuel (gap.text.reverse ++ done) c

/-- Reads a scalar in quotes, after its opening quote. -/
def quoted? (quote : Char) (c : Cursor) : Option (List Char × Cursor) :=
  quotedFrom? quote (c.rest.length + 1) [] c

/-! ## Blocks -/

/-- What happens to the ends of lines at the end of a block. -/
inductive Chomping where
  | strip
  | clip
  | keep
deriving DecidableEq, Repr

/-- Reads the marks behind the sign of a block: its chomping and its indentation, in either
order. -/
def blockMarks? (c : Cursor) : Option (Chomping × Option Nat × Cursor) :=
  let chomping? (ch : Char) : Option Chomping :=
    if ch == '+' then some .keep else if ch == '-' then some .strip else none
  let digit? (c : Cursor) : Option (Option Nat × Cursor) :=
    match c.peek 0 with
    | some d =>
      if d == '0' then none
      else if d.isDigit then some (some (d.toNat - 48), c.skip)
      else some (none, c)
    | none => some (none, c)
  match (c.peek 0).bind chomping? with
  | some chomping => (digit? c.skip).map fun (n, c) => (chomping, n, c)
  | none =>
    match digit? c with
    | none => none
    | some (none, c) => some (.clip, none, c)
    | some (some n, c) =>
      match (c.peek 0).bind chomping? with
      | some chomping => some (chomping, some n, c.skip)
      | none => some (.clip, some n, c)

/-- Reads indentation and empty lines. Gives the ends of the lines, and the greatest column that
was reached. Indentation may not hold a tab. -/
def blockGap? (indent : Option Nat) : Nat → List Char → Nat → Cursor →
    Option (List Char × Nat × Cursor)
  | 0, breaks, most, c => some (breaks, most, c)
  | fuel + 1, breaks, most, c =>
    let room := match indent with
      | some n => n - c.column
      | none => c.rest.length
    let c := c.advance ((c.rest.take room).takeWhile (· == ' ')).length
    let most := max most c.column
    if indent.all (c.column < ·) && c.peek 0 == some '\t' then none
    else if (c.peek 0).any isBreak then
      let (s, c) := c.takeBreak
      blockGap? indent fuel (breaks ++ s) most c
    else some (breaks, most, c)

/-- The lines of a block that were read. -/
structure BlockLines where
  /-- The text, in reverse. -/
  done : List Char := []
  /-- The end of the last line. -/
  last : List Char := []
  /-- The ends of the empty lines after it. -/
  empty : List Char := []
  /-- Whether the last line starts with a blank. -/
  indented : Bool := false

/-- Reads the lines of a block that is indented by `indent`. -/
def blockLines? (folded : Bool) (indent : Nat) : Nat → BlockLines → Cursor →
    Option (BlockLines × Cursor)
  | 0, b, c => some (b, c)
  | fuel + 1, b, c =>
    if c.column != indent || c.rest.isEmpty then some (b, c)
    else
      let indented := (c.peek 0).any isBlank
      let between :=
        if folded && b.last == ['\n'] && !b.indented && !indented then
          (if b.empty.isEmpty then [' '] else b.empty)
        else b.last ++ b.empty
      let (line, c) := c.span fun ch => !isBreak ch
      let (last, c) := c.takeBreak
      match blockGap? (some indent) (c.rest.length + 1) [] 0 c with
      | none => none
      | some (empty, _, c) =>
        let done := line.reverse ++ between.reverse ++ b.done
        blockLines? folded indent fuel ⟨done, last, empty, indented⟩ c

/-- Reads a block, after its sign. Its parent is indented by `parent`, or by nothing. -/
def block? (folded : Bool) (parent : Option Nat) (c : Cursor) : Option (List Char × Cursor) := do
  let (chomping, increment, c) ← blockMarks? c
  let c := (c.skipWhile isBlank).skipComment
  if !c.atBreak 0 then none
  let c := c.takeBreak.2
  let given := increment.map fun n => n + parent.getD 0
  let (breaks, most, c) ← blockGap? given (c.rest.length + 1) [] 0 c
  let least := match parent with
    | some n => n + 1
    | none => 1
  let indent := given.getD (max most least)
  let (b, c) ← blockLines? folded indent (c.rest.length + 1) { empty := breaks } c
  let text := b.done.reverse ++ (if chomping == .strip then [] else b.last) ++
    (if chomping == .keep then b.empty else [])
  some (text, c)

end DeadSymbols.Yaml
