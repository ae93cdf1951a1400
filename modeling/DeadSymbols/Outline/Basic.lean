/-!
# Symbol outlines

The outline of a document: its symbols with their kinds, the place of each name, and the symbols
declared inside them.

* `SymbolKind.name`: the lower-case name of a kind.
* `Symbol.weight`: how many symbols a symbol stands for, itself included.
-/

namespace DeadSymbols

/-- A place in a document; lines and characters are counted from zero. -/
structure Position where
  line : UInt32
  character : UInt32
deriving DecidableEq, Inhabited, Repr

/-- The kind of a symbol, by its number in the protocol. -/
structure SymbolKind where
  code : Int
deriving DecidableEq, Inhabited, Repr

/-- The names of the kinds with the numbers 1, 2, 3 and so on. -/
def SymbolKind.names : List String :=
  ["file", "module", "namespace", "package", "class", "method", "property", "field", "constructor",
    "enum", "interface", "function", "variable", "constant", "string", "number", "boolean", "array",
    "object", "key", "null", "enummember", "struct", "event", "operator", "typeparameter"]

/-- The lower-case name of a kind. -/
def SymbolKind.name (kind : SymbolKind) : String :=
  if 0 < kind.code then (names[kind.code.toNat - 1]?).getD "other" else "other"

/-- A symbol of an outline. -/
inductive Symbol where
  | node (name : String) (kind : SymbolKind) (anchor : Position) (children : List Symbol)
deriving Inhabited, Repr

namespace Symbol

/-- The name as it is written. -/
def name : Symbol → String
  | node n _ _ _ => n

/-- What the symbol declares. -/
def kind : Symbol → SymbolKind
  | node _ k _ _ => k

/-- Where the name starts; the key for reference queries. -/
def anchor : Symbol → Position
  | node _ _ a _ => a

/-- The symbols declared inside. -/
def children : Symbol → List Symbol
  | node _ _ _ cs => cs

mutual

/-- The number of symbols in a symbol, itself included. -/
def weight : Symbol → Nat
  | node _ _ _ cs => weightAll cs + 1
termination_by structural s => s

/-- The number of symbols in a forest. -/
def weightAll : List Symbol → Nat
  | [] => 0
  | s :: rest => s.weight + weightAll rest
termination_by structural ss => ss

end

theorem weightAll_append (xs ys : List Symbol) :
    weightAll (xs ++ ys) = weightAll xs + weightAll ys := by
  induction xs with
  | nil => simp [weightAll]
  | cons x xs ih => simp only [List.cons_append, weightAll, ih]; omega

theorem weight_eq (s : Symbol) : s.weight = weightAll s.children + 1 := by
  cases s; rfl

end Symbol

end DeadSymbols
