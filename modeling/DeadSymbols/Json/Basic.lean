import DeadSymbols.Binary64.Basic

/-!
# JSON values

A JSON value with its object members in written order. Whole numbers of 64 bits are kept
exactly; every other number is a binary64.

* `normal`: members sorted by key, of a repeated key the last.
* `get?`, `asText?`, `asInt64?`, ...: looking into a value.
-/

namespace DeadSymbols

/-- A JSON value. -/
inductive Json where
  | null
  | bool (b : Bool)
  | integer (n : Int)
  | real (x : Binary64)
  | text (s : String)
  | array (elements : List Json)
  | object (members : List (String × Json))
deriving BEq, Inhabited, Repr

namespace Json

/-- Puts a member into members sorted by key, in the place of one with the same key. Keys are
ordered by code point, which is the order of their UTF-8 bytes. -/
def insertMember (key : String) (value : Json) : List (String × Json) → List (String × Json)
  | [] => [(key, value)]
  | (k, v) :: rest =>
    if key < k then (key, value) :: (k, v) :: rest
    else if key == k then (key, value) :: rest
    else (k, v) :: insertMember key value rest

/-- Sorts members by key; of a repeated key the last one counts. -/
def sortMembers (members : List (String × Json)) : List (String × Json) :=
  members.foldl (fun sorted m => insertMember m.1 m.2 sorted) []

mutual

/-- The value with the members of every object sorted, and no key repeated. -/
def normal : Json → Json
  | .array elements => .array (normalElements elements)
  | .object members => .object (sortMembers (normalMembers members))
  | v => v
termination_by structural v => v

/-- `normal` of each element. -/
def normalElements : List Json → List Json
  | [] => []
  | v :: rest => v.normal :: normalElements rest
termination_by structural vs => vs

/-- `normal` of one member. -/
def normalMember : String × Json → String × Json
  | (k, v) => (k, v.normal)
termination_by structural m => m

/-- `normal` of each member. -/
def normalMembers : List (String × Json) → List (String × Json)
  | [] => []
  | m :: rest => normalMember m :: normalMembers rest
termination_by structural ms => ms

end

/-- The value of the last member with a key. -/
def lookup? (key : String) (members : List (String × Json)) : Option Json :=
  (members.reverse.find? (·.1 == key)).map (·.2)

/-- A member of an object; none for any other value. -/
def get? (v : Json) (key : String) : Option Json :=
  match v with
  | .object members => lookup? key members
  | _ => none

/-- The text of a string. -/
def asText? : Json → Option String
  | .text s => some s
  | _ => none

/-- The elements of an array. -/
def asArray? : Json → Option (List Json)
  | .array vs => some vs
  | _ => none

/-- The truth value. -/
def asBool? : Json → Option Bool
  | .bool b => some b
  | _ => none

/-- The largest whole number of 64 bits. -/
def maxUInt64 : Nat := 0xFFFFFFFFFFFFFFFF

/-- A whole number that fits into 64 bits with a sign. -/
def asInt64? : Json → Option Int
  | .integer n => if -0x8000000000000000 ≤ n && n < 0x8000000000000000 then some n else none
  | _ => none

/-- A whole number from `low` to `high`. -/
def asBetween? (low high : Int) : Json → Option Int
  | .integer n => if low ≤ n && n ≤ high then some n else none
  | _ => none

/-- A natural number. -/
def asNat? : Json → Option Nat
  | .integer n => if 0 ≤ n then some n.toNat else none
  | _ => none

end Json

end DeadSymbols
