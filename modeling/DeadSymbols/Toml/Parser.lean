import DeadSymbols.Binary64.Decimal
import DeadSymbols.Toml.Moment
import DeadSymbols.Toml.Value

/-!
# Reading TOML

A text is a sequence of lines. A header begins a table, or a further table under one header, and
the lines after it add to that table.

* `Toml.parse?`: the root table of a text; none if the text is not TOML.
-/

namespace DeadSymbols.Toml

/-! ## Blanks, comments and ends of lines -/

/-- A space or a tab. -/
def isBlank (c : Char) : Bool := c == ' ' || c == '\t'

/-- The text after blanks. -/
def skipBlanks (cs : List Char) : List Char := cs.dropWhile isBlank

/-- A character that a comment or a string may hold. -/
def isPrintable (c : Char) : Bool := c == '\t' || (0x20 ≤ c.toNat && c.toNat != 0x7F)

/-- The text after the end of a line. -/
def newline? : List Char → Option (List Char)
  | '\n' :: rest => some rest
  | '\r' :: '\n' :: rest => some rest
  | _ => none

/-- The text after a comment, if there is one. -/
def skipComment : List Char → List Char
  | '#' :: rest => rest.dropWhile isPrintable
  | cs => cs

/-- The text after what may follow the content of a line. -/
def lineEnd? (cs : List Char) : Option (List Char) :=
  match skipComment (skipBlanks cs) with
  | [] => some []
  | cs => newline? cs

/-- The text after blanks, comments and ends of lines. -/
def skipLines : Nat → List Char → List Char
  | 0, cs => cs
  | fuel + 1, cs =>
    match skipBlanks cs with
    | '#' :: rest =>
      match newline? (rest.dropWhile isPrintable) with
      | some rest => skipLines fuel rest
      | none => '#' :: rest
    | cs =>
      match newline? cs with
      | some rest => skipLines fuel rest
      | none => cs

/-- The text after blanks and ends of lines. -/
def skipBlankLines : List Char → List Char
  | '\r' :: '\n' :: rest => skipBlankLines rest
  | c :: rest => if isBlank c || c == '\n' then skipBlankLines rest else c :: rest
  | [] => []

/-! ## Strings -/

/-- Reads a character written with `n` hexadecimal digits. -/
def hexChar? (n : Nat) (cs : List Char) : Option (Char × List Char) :=
  let ds := cs.take n
  if ds.length != n then none
  else
    (ds.mapM Json.hexValue?).bind fun vs =>
      let v := vs.foldl (fun v d => v * 16 + d) 0
      if v.isValidChar then some (Char.ofNat v, cs.drop n) else none

/-- Reads an escape, after its backslash. -/
def escape? : List Char → Option (Char × List Char)
  | 'b' :: rest => some (Char.ofNat 8, rest)
  | 't' :: rest => some ('\t', rest)
  | 'n' :: rest => some ('\n', rest)
  | 'f' :: rest => some (Char.ofNat 12, rest)
  | 'r' :: rest => some ('\r', rest)
  | '\x22' :: rest => some ('\x22', rest)
  | '\\' :: rest => some ('\\', rest)
  | 'u' :: rest => hexChar? 4 rest
  | 'U' :: rest => hexChar? 8 rest
  | _ => none

/-- Reads the rest of a string on one line; `done` holds what was read, in reverse. -/
def string? (quote : Char) : Nat → List Char → List Char → Option (String × List Char)
  | 0, _, _ => none
  | _, _, [] => none
  | fuel + 1, done, c :: rest =>
    if c == quote then some (String.ofList done.reverse, rest)
    else if c == '\\' && quote == '\x22' then
      match escape? rest with
      | none => none
      | some (e, rest) => string? quote fuel (e :: done) rest
    else if isPrintable c then string? quote fuel (c :: done) rest
    else none

/-- Reads the rest of a string of several lines; `done` holds what was read, in reverse. Up to two
quotes may stand before the three that end it. -/
def longString? (quote : Char) : Nat → List Char → List Char → Option (String × List Char)
  | 0, _, _ => none
  | _, _, [] => none
  | fuel + 1, done, c :: rest =>
    if c == quote then
      let n := min 5 ((c :: rest).takeWhile (· == quote)).length
      let after := (c :: rest).drop n
      if n < 3 then longString? quote fuel (List.replicate n quote ++ done) after
      else some (String.ofList (List.replicate (n - 3) quote ++ done).reverse, after)
    else if c == '\\' && quote == '\x22' then
      match newline? (skipBlanks rest) with
      | some after => longString? quote fuel done (skipBlankLines after)
      | none =>
        match escape? rest with
        | none => none
        | some (e, rest) => longString? quote fuel (e :: done) rest
    else
      match newline? (c :: rest) with
      | some rest => longString? quote fuel ('\n' :: done) rest
      | none =>
        if isPrintable c then longString? quote fuel (c :: done) rest else none

/-- Reads a string, after its first quote. -/
def anyString? (quote : Char) (cs : List Char) : Option (String × List Char) :=
  match cs with
  | a :: b :: rest =>
    if a == quote && b == quote then
      longString? quote (rest.length + 1) [] ((newline? rest).getD rest)
    else string? quote (cs.length + 1) [] cs
  | _ => string? quote (cs.length + 1) [] cs

/-! ## Numbers -/

/-- Reads digits, between which there may be single underscores. -/
def digits? (isDigit : Char → Bool) (cs : List Char) : Option (List Char × List Char) :=
  let rec more : Nat → List Char → Option (List Char × List Char)
    | 0, cs => some ([], cs)
    | fuel + 1, cs =>
      match cs with
      | '_' :: d :: rest =>
        if isDigit d then (more fuel rest).map fun (ds, rest) => (d :: ds, rest) else none
      | ['_'] => none
      | d :: rest =>
        if isDigit d then (more fuel rest).map fun (ds, rest) => (d :: ds, rest) else some ([], cs)
      | [] => some ([], [])
  match cs with
  | d :: rest =>
    if isDigit d then (more rest.length rest).map fun (ds, rest) => (d :: ds, rest) else none
  | [] => none

/-- Reads the digits of a whole number, which has no zero before another digit. -/
def wholeDigits? (cs : List Char) : Option (List Char × List Char) :=
  match cs with
  | '0' :: rest => some (['0'], rest)
  | _ => digits? Char.isDigit cs

/-- A whole number of 64 bits. -/
def small? (n : Int) : Option Toml :=
  if -0x8000000000000000 ≤ n && n < 0x8000000000000000 then some (.integer n) else none

/-- Reads a whole number to a base, after its mark. -/
def based? (base : Nat) (cs : List Char) : Option (Toml × List Char) := do
  let (ds, rest) ← digits? (fun c => (Json.hexValue? c).any (· < base)) cs
  let n := (ds.filterMap Json.hexValue?).foldl (fun n d => n * base + d) 0
  some (← small? n, rest)

/-- Reads an exponent, if there is one. -/
def exponent? (cs : List Char) : Option (Option Int × List Char) :=
  let after? := match cs with
    | 'e' :: rest | 'E' :: rest => some rest
    | _ => none
  match after? with
  | none => some (none, cs)
  | some rest =>
    let (negative, rest) := match rest with
      | '-' :: rest => (true, rest)
      | '+' :: rest => (false, rest)
      | _ => (false, rest)
    (digits? Char.isDigit rest).map fun (ds, rest) =>
      let n : Int := Json.digitsValue ds
      (some (if negative then -n else n), rest)

/-- Reads a number without a mark of a base, after its sign. A positive number may not be too large;
a negative one then has no bound. -/
def decimal? (negative : Bool) (cs : List Char) : Option (Toml × List Char) := do
  let (whole, rest) ← wholeDigits? cs
  let (fraction, rest) ← match rest with
    | '.' :: rest => (digits? Char.isDigit rest).map fun (ds, rest) => (some ds, rest)
    | _ => some (none, rest)
  let (exponent, rest) ← exponent? rest
  match fraction, exponent with
  | none, none =>
    let n : Int := Json.digitsValue whole
    some (← small? (if negative then -n else n), rest)
  | _, _ =>
    let ds := fraction.getD []
    match Binary64.ofDecimal? negative (Json.digitsValue (whole ++ ds))
        (exponent.getD 0 - ds.length) with
    | some x => some (.real (some x), rest)
    | none => if negative then some (.real none, rest) else none

/-- Reads a number, after its sign. -/
def signed? (negative : Bool) (cs : List Char) : Option (Toml × List Char) :=
  match cs with
  | 'i' :: 'n' :: 'f' :: rest | 'n' :: 'a' :: 'n' :: rest => some (.real none, rest)
  | _ => decimal? negative cs

/-- Reads a number, a date or a time. -/
def number? (cs : List Char) : Option (Toml × List Char) :=
  match cs with
  | '+' :: rest => signed? false rest
  | '-' :: rest => signed? true rest
  | '0' :: 'x' :: rest => based? 16 rest
  | '0' :: 'o' :: rest => based? 8 rest
  | '0' :: 'b' :: rest => based? 2 rest
  | _ =>
    if momentStart cs == .neither then decimal? false cs
    else (moment? cs).map fun (s, rest) => (.moment (String.ofList s), rest)

/-! ## Keys -/

/-- A character of a key without quotes. -/
def isKeyChar (c : Char) : Bool := c.isAlphanum || c == '-' || c == '_'

/-- Reads one part of a key. -/
def keyPart? (cs : List Char) : Option (String × List Char) :=
  match cs with
  | '\x22' :: rest => string? '\x22' (rest.length + 1) [] rest
  | '\'' :: rest => string? '\'' (rest.length + 1) [] rest
  | _ =>
    let name := cs.takeWhile isKeyChar
    if name.isEmpty then none else some (String.ofList name, cs.dropWhile isKeyChar)

/-- The most levels that keys and values may have. -/
def maxLevels : Nat := 79

/-- Reads a dotted key of at most `fuel` parts, with the blanks around it. Gives all parts but the
last, and the last. -/
def key? : Nat → List Char → Option ((List String × String) × List Char)
  | 0, _ => none
  | fuel + 1, cs =>
    match keyPart? (skipBlanks cs) with
    | none => none
    | some (part, rest) =>
      match skipBlanks rest with
      | '.' :: rest => (key? fuel rest).map fun ((path, last), rest) => ((part :: path, last), rest)
      | rest => some (([], part), rest)

/-! ## Values -/

mutual

/-- Reads a value; `levels` lists and tables may be opened. -/
def value? (fuel levels : Nat) (cs : List Char) : Option (Toml × List Char) :=
  match fuel with
  | 0 => none
  | fuel + 1 =>
    match cs with
    | '\x22' :: rest => (anyString? '\x22' rest).map fun (s, rest) => (.text s, rest)
    | '\'' :: rest => (anyString? '\'' rest).map fun (s, rest) => (.text s, rest)
    | '[' :: rest =>
      match levels with
      | 0 => none
      | levels + 1 =>
        (items? fuel levels (skipLines rest.length rest)).map fun (vs, rest) => (.list vs, rest)
    | '\x7b' :: rest =>
      match levels with
      | 0 => none
      | levels + 1 =>
        match skipBlanks rest with
        | '\x7d' :: rest => some (.inline [], rest)
        | rest =>
          (pairs? fuel levels ⟨.header, []⟩ rest).map fun (t, rest) => (.inline t.entries, rest)
    | 't' :: 'r' :: 'u' :: 'e' :: rest => some (.bool true, rest)
    | 'f' :: 'a' :: 'l' :: 's' :: 'e' :: rest => some (.bool false, rest)
    | 'i' :: 'n' :: 'f' :: rest | 'n' :: 'a' :: 'n' :: rest => some (.real none, rest)
    | _ => number? cs

/-- Reads the items of a list. A comma may follow the last one. -/
def items? (fuel levels : Nat) (cs : List Char) : Option (List Toml × List Char) :=
  match fuel with
  | 0 => none
  | fuel + 1 =>
    match cs with
    | ']' :: rest => some ([], rest)
    | _ =>
      match value? fuel levels cs with
      | none => none
      | some (v, rest) =>
        match skipLines rest.length rest with
        | ',' :: rest =>
          (items? fuel levels (skipLines rest.length rest)).map fun (vs, rest) => (v :: vs, rest)
        | ']' :: rest => some ([v], rest)
        | _ => none

/-- Reads the pairs of a table in braces. -/
def pairs? (fuel levels : Nat) (t : Building) (cs : List Char) : Option (Building × List Char) :=
  match fuel with
  | 0 => none
  | fuel + 1 =>
    match key? maxLevels cs with
    | some ((path, key), '=' :: rest) =>
      match value? fuel levels (skipBlanks rest) with
      | none => none
      | some (v, rest) =>
        match define? path key v t with
        | none => none
        | some t =>
          match skipBlanks rest with
          | ',' :: rest => pairs? fuel levels t rest
          | '\x7d' :: rest => some (t, rest)
          | _ => none
    | _ => none

end

/-! ## Documents -/

/-- A document that is being read: the tables so far, and the table to which lines add. -/
structure Draft where
  root : Building := ⟨.header, []⟩
  current : Building := ⟨.header, []⟩
  /-- The path of the current table; none for the root. -/
  path : Option (List String × String) := none
  /-- Whether the current table is one of several under its header. -/
  isItem : Bool := false

namespace Draft

/-- Puts the current table into its place. -/
def finish? (d : Draft) : Option Building :=
  match d.path with
  | none => some d.current
  | some (path, key) =>
    update? false (fun t =>
      match t.entries.lookup key with
      | none =>
        let v := if d.isItem then Toml.tables [d.current.entries]
          else .table .header d.current.entries
        some { t with entries := t.entries ++ [(key, v)] }
      | some (.tables items) =>
        if d.isItem then
          some { t with entries := Entries.put key (.tables (items ++ [d.current.entries])) t.entries }
        else none
      | some _ => none) path d.root

/-- The table at a path, with the tables on the way made. -/
def parent? (root : Building) (path : List String) : Option Building :=
  let rec go : List String → Building → Option Building
    | [], t => some t
    | key :: path, t =>
      match t.entries.lookup key with
      | none => go path ⟨.implied, []⟩
      | some (.table origin entries) => go path ⟨origin, entries⟩
      | some (.tables items) => items.getLast?.bind fun last => go path ⟨.header, last⟩
      | some _ => none
  go path root

/-- Begins the table of a header. A table that was only implied goes on. -/
def startTable? (path : List String) (key : String) (d : Draft) : Option Draft := do
  let root ← d.finish?
  let parent ← parent? root path
  match parent.entries.lookup key with
  | none => some { root := root, path := some (path, key) }
  | some (.table .implied entries) =>
    let root ← update? false
      (fun t => some { t with entries := t.entries.filter (·.1 != key) }) path root
    some { root := root, current := ⟨.header, entries⟩, path := some (path, key) }
  | some _ => none

/-- Begins a further table under a header. -/
def startItem? (path : List String) (key : String) (d : Draft) : Option Draft := do
  let root ← d.finish?
  let parent ← parent? root path
  match parent.entries.lookup key with
  | none | some (.tables _) => some { root := root, path := some (path, key), isItem := true }
  | some _ => none

end Draft

/-- Reads lines. -/
def lines? : Nat → Draft → List Char → Option Draft
  | 0, _, _ => none
  | fuel + 1, d, cs =>
    match skipBlanks cs with
    | [] => some d
    | '#' :: rest => (lineEnd? ('#' :: rest)).bind (lines? fuel d)
    | '[' :: '[' :: rest =>
      match key? maxLevels rest with
      | some ((path, key), ']' :: ']' :: rest) =>
        match d.startItem? path key with
        | none => none
        | some d => (lineEnd? rest).bind (lines? fuel d)
      | _ => none
    | '[' :: rest =>
      match key? maxLevels rest with
      | some ((path, key), ']' :: rest) =>
        match d.startTable? path key with
        | none => none
        | some d => (lineEnd? rest).bind (lines? fuel d)
      | _ => none
    | cs =>
      match newline? cs with
      | some rest => lines? fuel d rest
      | none =>
        match key? maxLevels cs with
        | some ((path, key), '=' :: rest) =>
          match value? (2 * rest.length + 2) maxLevels (skipBlanks rest) with
          | none => none
          | some (v, rest) =>
            match define? path key v d.current with
            | none => none
            | some t => (lineEnd? rest).bind (lines? fuel { d with current := t })
        | _ => none

/-- The entries of the root table of a text. -/
def parse? (s : String) : Option Entries :=
  let cs := match s.toList with
    | c :: rest => if c.toNat == 0xFEFF then rest else c :: rest
    | [] => []
  ((lines? (cs.length + 2) {} cs).bind Draft.finish?).map (·.entries)

end DeadSymbols.Toml
