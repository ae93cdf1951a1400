import DeadSymbols.Text.Utf8

/-!
# Absolute URLs

Whether a text is an absolute URL by the rules that browsers follow: a scheme and a colon, and,
where the scheme or a double slash asks for one, a host that is well formed. Of a domain only the
bytes are looked at: whether labels with letters of other scripts, or those that begin with `xn--`
and stand for such labels, follow the rules for international names is not checked.

* `isAbsolute`: the test.
-/

namespace DeadSymbols.Uri

/-- Removes control characters and spaces from both ends, and tabs and line ends everywhere. -/
def tidy (cs : List Char) : List Char :=
  let edge (c : Char) : Bool := c.toNat ≤ 0x20
  ((cs.dropWhile edge).reverse.dropWhile edge).reverse.filter fun c =>
    !(c == '\t' || c == '\n' || c == '\r')

/-- A letter of a scheme after the first. -/
def isSchemeChar (c : Char) : Bool := c.isAlphanum || c == '+' || c == '-' || c == '.'

/-- Splits off the scheme, in lower case. -/
def scheme? (cs : List Char) : Option (List Char × List Char) :=
  match cs with
  | c :: _ =>
    if c.isAlpha then
      match cs.dropWhile isSchemeChar with
      | ':' :: rest => some ((cs.takeWhile isSchemeChar).map Char.toLower, rest)
      | _ => none
    else none
  | [] => none

/-- The value of a hexadecimal digit. -/
def hexDigitValue? (c : Char) : Option Nat :=
  if c.isDigit then some (c.toNat - 48)
  else if 'a' ≤ c.toLower && c.toLower ≤ 'f' then some (c.toLower.toNat - 87)
  else none

/-- Bytes with percent escapes decoded. -/
def percentDecode : List UInt8 → List UInt8
  | 0x25 :: a :: b :: rest =>
    match hexDigitValue? (Char.ofNat a.toNat), hexDigitValue? (Char.ofNat b.toNat) with
    | some x, some y => UInt8.ofNat (x * 16 + y) :: percentDecode rest
    | _, _ => 0x25 :: percentDecode (a :: b :: rest)
  | b :: rest => b :: percentDecode rest
  | [] => []

/-- A byte that no host may hold. -/
def isForbiddenInHost (b : UInt8) : Bool :=
  b == 0 || b == 9 || b == 10 || b == 13 || b == 0x20 || b == 0x23 || b == 0x2F || b == 0x3A ||
    b == 0x3C || b == 0x3E || b == 0x3F || b == 0x40 || b == 0x5B || b == 0x5C || b == 0x5D ||
    b == 0x5E || b == 0x7C

/-- A byte that no domain may hold. -/
def isForbiddenInDomain (b : UInt8) : Bool :=
  isForbiddenInHost b || b < 0x20 || b == 0x25 || b == 0x7F

/-- The pieces of a text between marks. -/
def splitAtMark (mark : Char) (piece : List Char) : List Char → List (List Char)
  | [] => [piece.reverse]
  | c :: rest =>
    if c == mark then piece.reverse :: splitAtMark mark [] rest
    else splitAtMark mark (c :: piece) rest

/-- The value of digits to a base, none if a character is no digit of it. -/
def numberIn? (base : Nat) (cs : List Char) : Option Nat :=
  cs.foldl (fun n? c => do
    let n ← n?
    let d ← hexDigitValue? c
    if d < base then some (n * base + d) else none) (some 0)

/-- A part of a numeric address: decimal, hexadecimal after `0x`, octal after `0`. -/
def addressPart? : List Char → Option Nat
  | '0' :: 'x' :: rest | '0' :: 'X' :: rest => numberIn? 16 rest
  | '0' :: d :: rest => numberIn? 8 (d :: rest)
  | cs => if cs.isEmpty then none else numberIn? 10 cs

/-- The labels of a domain without an empty one at its end. -/
def labels (cs : List Char) : List (List Char) :=
  let all := splitAtMark '.' [] cs
  if 1 < all.length && all.getLast? == some [] then all.dropLast else all

/-- Whether a domain is meant as a numeric address: its last label is a number. -/
def endsInNumber (cs : List Char) : Bool :=
  match (labels cs).getLast? with
  | none | some [] => false
  | some last =>
    last.all Char.isDigit ||
      (match last with
       | '0' :: 'x' :: rest | '0' :: 'X' :: rest => (numberIn? 16 rest).isSome
       | _ => false)

/-- Whether a domain is a numeric address of four bytes. -/
def isAddress4 (cs : List Char) : Bool :=
  let parts := labels cs
  match parts.mapM addressPart? with
  | none => false
  | some ns =>
    ns.length ≤ 4 && ns.dropLast.all (· ≤ 255) &&
      (match ns.getLast? with
       | some n => n < Nat.pow 256 (5 - ns.length)
       | none => false)

/-- Whether a text is four decimal bytes with dots between them. -/
def isDotted (cs : List Char) : Bool :=
  let parts := splitAtMark '.' [] cs
  parts.length == 4 && parts.all fun p =>
    !p.isEmpty && p.all Char.isDigit && p.length ≤ 3 && !(p.head? == some '0' && 1 < p.length) &&
      (numberIn? 10 p).any (· ≤ 255)

/-- How many of the eight pieces of an address of sixteen bytes some text writes out; none if a
piece is malformed. Four decimal bytes may stand at the end of the address. -/
def piecesOf? (atEnd : Bool) (cs : List Char) : Option Nat :=
  if cs.isEmpty then some 0 else
  let parts := splitAtMark ':' [] cs
  let isPiece (p : List Char) : Bool :=
    !p.isEmpty && p.length ≤ 4 && p.all fun c => (hexDigitValue? c).isSome
  if parts.all isPiece then some parts.length
  else if atEnd && parts.dropLast.all isPiece && (parts.getLast?.any isDotted) then
    some (parts.length + 1)
  else none

/-- The text before and after the first double colon. -/
def splitDoubleColon : List Char → Option (List Char × List Char)
  | ':' :: ':' :: rest => some ([], rest)
  | c :: rest => (splitDoubleColon rest).map fun (a, b) => (c :: a, b)
  | [] => none

/-- Whether a text is an address of sixteen bytes. -/
def isAddress6 (cs : List Char) : Bool :=
  match splitDoubleColon cs with
  | none => piecesOf? true cs == some 8
  | some (before, after) =>
    match piecesOf? false before, piecesOf? true after with
    | some a, some b => a + b ≤ 7
    | _, _ => false

/-- Whether a text between brackets, its brackets included, is a host. -/
def isBracketed (cs : List Char) : Bool :=
  match cs with
  | '[' :: rest => rest.getLast? == some ']' && isAddress6 rest.dropLast
  | _ => false

/-- Whether a text is the host of a scheme that wants a domain, as far as its bytes go: the rules for
international names are not checked. -/
def isDomainHost (cs : List Char) : Bool :=
  if cs.head? == some '[' then isBracketed cs else
  let bytes := percentDecode (Text.encode (String.ofList cs))
  !bytes.isEmpty && !bytes.any isForbiddenInDomain && (Text.decode bytes).isOk &&
    (let domain := bytes.map fun b => Char.ofNat b.toNat
     !endsInNumber domain || isAddress4 domain)

/-- Whether a text is the host of any other scheme. -/
def isOpaqueHost (cs : List Char) : Bool :=
  if cs.head? == some '[' then isBracketed cs
  else !(Text.encode (String.ofList cs)).any isForbiddenInHost

/-- Whether a character ends the authority. -/
def endsAuthority (special : Bool) (c : Char) : Bool :=
  c == '/' || c == '?' || c == '#' || (special && c == '\\')

/-- Splits an authority at the colon before its service number. A colon between brackets does not
count. -/
def splitService (inside : Bool) : List Char → List Char × Option (List Char)
  | [] => ([], none)
  | ':' :: rest =>
    if inside then (fun (h, p) => (':' :: h, p)) (splitService inside rest) else ([], some rest)
  | c :: rest =>
    let inside := if c == '[' then true else if c == ']' then false else inside
    (fun (h, p) => (c :: h, p)) (splitService inside rest)

/-- Whether what follows the colon, up to a backslash, is a service number. -/
def isServiceNumber (cs : List Char) : Bool :=
  let ds := cs.takeWhile (· != '\\')
  ds.all Char.isDigit && (ds.isEmpty || (numberIn? 10 ds).any (· ≤ 65535))

/-- The user that an authority names before its last at sign, if it has one, and the rest. -/
def splitUser (cs : List Char) : Option (List Char) × List Char :=
  if cs.contains '@' then
    (some ((cs.reverse.dropWhile (· != '@')).drop 1).reverse,
      (cs.reverse.takeWhile (· != '@')).reverse)
  else
    (none, cs)

/-- Whether an authority may go without a host. It may not if it names a user, or gives an empty one
and is followed by anything. -/
def mayLackHost (user : Option (List Char)) (atEnd : Bool) : Bool :=
  match user with
  | none | some [':'] => true
  | some [] => atEnd
  | some _ => false

/-- Whether what follows the double slash starts with a well-formed authority. -/
def hasAuthority (special : Bool) (cs : List Char) : Bool :=
  let authority := cs.takeWhile fun c => !endsAuthority special c
  let (user, server) := splitUser authority
  let (host, service) := splitService false server
  (if special then isDomainHost host
   else if host.isEmpty then mayLackHost user (authority.length == cs.length) && service.isNone
   else isOpaqueHost host) &&
    service.all isServiceNumber

/-- Schemes whose URLs have a domain. -/
def domainSchemes : List String := ["http", "https", "ws", "wss", "ftp"]

/-- Whether a text names a drive, which is no host. -/
def isDrive (cs : List Char) : Bool :=
  match cs with
  | [c, ':'] | [c, '|'] => c.isAlpha
  | _ => false

/-- Whether a text is an absolute URL. -/
def isAbsolute (s : String) : Bool :=
  match scheme? (tidy s.toList) with
  | none => false
  | some (scheme, rest) =>
    if scheme == "file".toList then
      match rest with
      | a :: b :: more =>
        if (a == '/' || a == '\\') && (b == '/' || b == '\\') then
          let host := more.takeWhile fun c => !endsAuthority true c
          host.isEmpty || isDrive host || isDomainHost host
        else true
      | _ => true
    else if domainSchemes.contains (String.ofList scheme) then
      hasAuthority true (rest.dropWhile fun c => c == '/' || c == '\\')
    else
      match rest with
      | '/' :: '/' :: more => hasAuthority false more
      | _ => true

end DeadSymbols.Uri
