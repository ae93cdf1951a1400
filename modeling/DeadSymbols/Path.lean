/-!
# Paths

Paths are texts with `/` between their parts. A path is compared part by part: repeated slashes
and parts that are a single dot make no difference, except for a dot at the very start.

* `parts`: the parts of a path.
* `join`, `fileName?`, `extension?`: building and taking apart.
* `relativeTo`: what follows a base, or the whole path if it does not start with the base.
-/

namespace DeadSymbols.Path

/-- One part of a path. -/
inductive Part where
  /-- The slash at the start of an absolute path. -/
  | root
  /-- A single dot at the start. -/
  | here
  /-- Two dots. -/
  | up
  | name (s : String)
deriving DecidableEq, Repr

/-- Whether a path starts at the root. -/
def isAbsolute (path : String) : Bool := path.toList.head? == some '/'

/-- Drops slashes and single dots before the next part. -/
def trimFront : List Char → List Char
  | [] => []
  | '/' :: rest => trimFront rest
  | ['.'] => []
  | '.' :: '/' :: rest => trimFront rest
  | c :: rest => c :: rest

/-- Drops slashes and single dots after the last part, in a reversed path. -/
def trimFrontReversed : List Char → List Char
  | [] => []
  | '/' :: rest => trimFrontReversed rest
  | ['.'] => []
  | '.' :: '/' :: rest => trimFrontReversed rest
  | c :: rest => c :: rest

/-- Drops slashes and single dots after the last part. -/
def trimBack (cs : List Char) : List Char := (trimFrontReversed cs.reverse).reverse

/-- Whether the text starts with a part that only a start can be: the root or a single dot. -/
def hasStart : List Char → Bool
  | '/' :: _ => true
  | ['.'] => true
  | '.' :: '/' :: _ => true
  | _ => false

/-- The part that a piece between slashes stands for. -/
def partOf (piece : List Char) : Part :=
  if piece == ['.', '.'] then .up else .name (String.ofList piece)

/-- The next part and the text after it; `atStart` says that nothing was taken yet. -/
def next? (atStart : Bool) (cs : List Char) : Option (Part × List Char) :=
  if atStart && hasStart cs then
    match cs with
    | '/' :: rest => some (.root, rest)
    | _ => some (.here, cs.drop 1)
  else
    match trimFront cs with
    | [] => none
    | cs => some (partOf (cs.takeWhile (· != '/')), cs.dropWhile (· != '/'))

/-- The pieces of a text between slashes. -/
def splitSlash (piece : List Char) : List Char → List (List Char)
  | [] => [piece.reverse]
  | c :: rest =>
    if c == '/' then piece.reverse :: splitSlash [] rest else splitSlash (c :: piece) rest

/-- The pieces of a path between slashes, empty ones included. -/
def pieces (path : String) : List String := (splitSlash [] path.toList).map String.ofList

/-- The parts of a path. -/
def parts (path : String) : List Part :=
  let body := (splitSlash [] path.toList).filter fun p => p != [] && p != ['.']
  let start : List Part :=
    match path.toList with
    | '/' :: _ => [.root]
    | cs => if hasStart cs then [.here] else []
  start ++ body.map partOf

/-- Takes the parts of a base off the start of a path. -/
def stripParts : List Part → Bool → List Char → Option (Bool × List Char)
  | [], atStart, cs => some (atStart, cs)
  | p :: rest, atStart, cs =>
    match next? atStart cs with
    | some (q, cs) => if p == q then stripParts rest false cs else none
    | none => none

/-- The text without slashes and single dots around it; a start that was not taken stays. -/
def trimAround (atStart : Bool) (cs : List Char) : List Char :=
  if atStart && hasStart cs then cs.take 1 ++ trimBack (cs.drop 1)
  else trimBack (if atStart then cs else trimFront cs)

/-- What follows the parts of `base` at the start of `path`; the whole path if it does not start
with them. -/
def relativeTo (base path : String) : String :=
  match stripParts (parts base) true path.toList with
  | some (atStart, cs) => String.ofList (trimAround atStart cs)
  | none => path

/-- The path of `child` seen from `base`. An absolute `child` stands for itself. -/
def join (base child : String) : String :=
  if isAbsolute child || base.isEmpty then child
  else if base.toList.getLast? == some '/' then base ++ child
  else base ++ "/" ++ child

/-- The last part, if it is a name. -/
def fileName? (path : String) : Option String :=
  match (parts path).getLast? with
  | some (.name s) => some s
  | _ => none

/-- The text after the last dot of a file name, the dot not being its first character. -/
def nameExtension? (name : String) : Option String :=
  let after := name.toList.reverse.takeWhile (· != '.')
  match name.toList.reverse.dropWhile (· != '.') with
  | '.' :: _ :: _ => some (String.ofList after.reverse)
  | _ => none

/-- The extension of the last part. -/
def extension? (path : String) : Option String := (fileName? path).bind nameExtension?

/-- The absolute path of some names below the root. -/
def ofNames : List String → String
  | [] => "/"
  | names => String.join (names.map ("/" ++ ·))

end DeadSymbols.Path
