import DeadSymbols.Json.Basic

/-!
# Records in JSON

A record is written as an object with its fields as members, or as an array of its fields in
order. A field may be written once; members that are no field are passed over.

* `record?`: the fields of a value that is a record.
* `required?`, `optional?`: the value of one field.
* `depth`: how deep a value is nested.
-/

namespace DeadSymbols.Json

/-- The fields that a value writes down. -/
abbrev Fields := List (String × Json)

/-- The fields of a record with the given names. An array gives all of them, unless the last ones
may be missing. -/
def record? (names : List String) (mayEndEarly : Bool) : Json → Option Fields
  | .object members =>
    let known := members.filter fun m => names.contains m.1
    if names.all fun n => (known.filter (·.1 == n)).length ≤ 1 then some known else none
  | .array vs =>
    if vs.length == names.length || (mayEndEarly && vs.length < names.length) then
      some (names.zip vs)
    else
      none
  | _ => none

/-- A field that must be there. -/
def required? {α : Type} (fields : Fields) (name : String) (read : Json → Option α) : Option α :=
  (fields.lookup name).bind read

/-- A field that may be missing or null. -/
def optional? {α : Type} (fields : Fields) (name : String) (read : Json → Option α) :
    Option (Option α) :=
  match fields.lookup name with
  | none | some .null => some none
  | some v => (read v).map some

/-- A list whose elements can all be read. -/
def list? {α : Type} (read : Json → Option α) : Json → Option (List α)
  | .array vs => vs.mapM read
  | _ => none

/-- A value that may be null. -/
def nullable? {α : Type} (read : Json → Option α) : Json → Option (Option α)
  | .null => some none
  | v => (read v).map some

/-- A whole number of 32 bits without a sign. -/
def asUInt32? (v : Json) : Option UInt32 :=
  (v.asBetween? 0 0xFFFFFFFF).map fun n => UInt32.ofNat n.toNat

/-- A whole number of 32 bits with a sign. -/
def asInt32? (v : Json) : Option Int := v.asBetween? (-0x80000000) 0x7FFFFFFF

mutual

/-- How deep containers are nested in a value, counting the value itself. -/
def depth : Json → Nat
  | .array vs => depthElements vs + 1
  | .object ms => depthMembers ms + 1
  | _ => 1
termination_by structural v => v

/-- The greatest depth of some elements. -/
def depthElements : List Json → Nat
  | [] => 0
  | v :: rest => max v.depth (depthElements rest)
termination_by structural vs => vs

/-- The depth of a member. -/
def depthMember : String × Json → Nat
  | (_, v) => v.depth
termination_by structural m => m

/-- The greatest depth of some members. -/
def depthMembers : List (String × Json) → Nat
  | [] => 0
  | m :: rest => max (depthMember m) (depthMembers rest)
termination_by structural ms => ms

end

end DeadSymbols.Json
