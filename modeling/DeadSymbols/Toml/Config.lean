import DeadSymbols.Config.Decode
import DeadSymbols.Text.Natural
import DeadSymbols.Toml.Parser

/-!
# Configurations in TOML

* `Toml.form`: TOML as a notation for configurations.
* `Toml.config?`: the configuration that a text holds.
-/

namespace DeadSymbols.Toml

/-- The key under which JSON holds a date or a time. -/
def momentKey : String := "$__toml_private_datetime"

mutual

/-- A value as JSON, which has no unbounded numbers. -/
def toJson : Toml → Json
  | .text s => .text s
  | .integer n => .integer n
  | .real (some x) => .real x
  | .real none => .null
  | .bool b => .bool b
  | .moment s => .object [(momentKey, .text s)]
  | .list items => .array (itemsJson items)
  | .inline entries => .object (entriesJson entries)
  | .table _ entries => .object (entriesJson entries)
  | .tables items => .array (tablesJson items)
termination_by structural v => v

/-- Items as JSON. -/
def itemsJson : List Toml → List Json
  | [] => []
  | v :: rest => toJson v :: itemsJson rest
termination_by structural vs => vs

/-- An entry as JSON. -/
def entryJson : String × Toml → String × Json
  | (key, v) => (key, toJson v)
termination_by structural e => e

/-- Entries as JSON. -/
def entriesJson : List (String × Toml) → List (String × Json)
  | [] => []
  | e :: rest => entryJson e :: entriesJson rest
termination_by structural es => es

/-- Tables as JSON. -/
def tablesJson : List (List (String × Toml)) → List Json
  | [] => []
  | es :: rest => .object (entriesJson es) :: tablesJson rest
termination_by structural ts => ts

end

/-- The items of a list. -/
def list? : Toml → Option (List Toml)
  | .list items => some items
  | .tables items => some (items.map (.table .header))
  | _ => none

/-- The fields of a record with some names: the entries of a table, or the items of a list in
order, of which more may follow. -/
def record? (names : List String) : Toml → Option (List (String × Toml))
  | .inline entries | .table _ entries => some (entries.filter fun e => names.contains e.1)
  | v => (list? v).map fun items => names.zip items

/-- The text of a string. -/
def text? : Toml → Option String
  | .text s => some s
  | _ => none

/-- A truth value. -/
def flag? : Toml → Option Bool
  | .bool b => some b
  | _ => none

/-- A natural number. -/
def count? : Toml → Option Nat
  | .integer n => if 0 ≤ n then some n.toNat else none
  | _ => none

/-- TOML as a notation. Whatever is there is not missing. -/
def form : ValueForm Toml where
  record? := record?
  list? := list?
  text? := text?
  flag? := flag?
  count? := count?
  optional? v := some (some v)
  any? v := some v.toJson.normal

/-- The configuration that a text holds. -/
def config? (s : String) : Option Config :=
  (parse? s).bind fun entries => Config.read? form (.table .header entries)

end DeadSymbols.Toml
