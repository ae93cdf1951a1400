import DeadSymbols.Binary64.Basic

/-!
# Values of TOML

A table may be built in several places, which depends on how it came to be: a table of dotted keys
is open to further dotted keys, and one that only a deeper header mentions to a header of its own.

* `Toml.update?`: changes the table at the end of a path, with the tables on the way.
* `Toml.define?`: adds a value under a dotted key.
-/

namespace DeadSymbols

/-- How a table came to be. -/
inductive Toml.Origin where
  /-- By a header, or as the root. -/
  | header
  /-- As the parent of a table with a header. -/
  | implied
  /-- By dotted keys. -/
  | dotted
deriving DecidableEq, Repr

/-- A value of TOML. -/
inductive Toml where
  | text (s : String)
  | integer (n : Int)
  /-- A number with a fraction; none if it is unbounded or no number. -/
  | real (x : Option Binary64)
  | bool (b : Bool)
  /-- A date, a time or both. -/
  | moment (s : String)
  | list (items : List Toml)
  /-- A table in braces. -/
  | inline (entries : List (String × Toml))
  | table (origin : Toml.Origin) (entries : List (String × Toml))
  /-- Tables with one header. -/
  | tables (items : List (List (String × Toml)))
deriving Inhabited, Repr

namespace Toml

/-- The entries of a table. -/
abbrev Entries := List (String × Toml)

/-- Puts a value in the place of one with the same key. -/
def Entries.put (key : String) (v : Toml) : Entries → Entries
  | [] => [(key, v)]
  | (k, old) :: rest => if k == key then (key, v) :: rest else (k, old) :: Entries.put key v rest

/-- A table that is being built. -/
structure Building where
  origin : Origin
  entries : Entries

/-- Changes the table at the end of a path. A table that is not there is made. If `byKey` is set
the path is that of a dotted key, which does not lead through tables with headers of their own. -/
def update? (byKey : Bool) (change : Building → Option Building) :
    List String → Building → Option Building
  | [], t => change t
  | key :: path, t =>
    let put (v : Toml) : Building := { t with entries := Entries.put key v t.entries }
    match t.entries.lookup key with
    | none =>
      (update? byKey change path ⟨if byKey then .dotted else .implied, []⟩).map fun c =>
        put (.table c.origin c.entries)
    | some (.table origin entries) =>
      if byKey && origin == .header then none
      else (update? byKey change path ⟨origin, entries⟩).map fun c =>
        put (.table c.origin c.entries)
    | some (.tables items) =>
      match items.getLast? with
      | none => none
      | some last =>
        (update? byKey change path ⟨.header, last⟩).map fun c =>
          put (.tables (items.dropLast ++ [c.entries]))
    | some _ => none

/-- Adds a value under a dotted key, which must be new. -/
def define? (path : List String) (key : String) (v : Toml) (t : Building) : Option Building :=
  update? true (fun t =>
    if (t.origin == .dotted) == path.isEmpty || (t.entries.lookup key).isSome then none
    else some { t with entries := t.entries ++ [(key, v)] }) path t

end Toml

end DeadSymbols
