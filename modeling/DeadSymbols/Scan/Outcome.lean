import DeadSymbols.Outline.Basic

/-!
# Outcomes of scans

* `Finding.ofSymbol`: the finding that a symbol makes.
* `Finding.text`: the line for a finding.
* `Outcome`: all that a scan found, and how its files ended.
-/

namespace DeadSymbols

/-- A symbol that nothing refers to. -/
structure Finding where
  name : String
  /-- The path of the file that declares the symbol. -/
  file : String
  /-- The line of the declaration, counted from one in 32 bits. -/
  line : UInt32
  /-- The name of the kind. -/
  kind : String
deriving DecidableEq, Repr

namespace Finding

/-- The finding that a symbol of a file makes. -/
def ofSymbol (symbol : Symbol) (file : String) : Finding :=
  ⟨symbol.name, file, symbol.anchor.line + 1, symbol.kind.name⟩

/-- The line for a finding. -/
def text (f : Finding) : String := s!"{f.file}:{f.line.toNat}: {f.name} ({f.kind})"

end Finding

/-- How many files ended in which way, and the findings. -/
structure Outcome where
  findings : List Finding := []
  filesTotal : Nat := 0
  filesScanned : Nat := 0
  /-- Files that could not be loaded or have no outline. -/
  filesSkipped : Nat := 0
  filesFailed : Nat := 0
  cancelled : Bool := false
deriving DecidableEq, Repr

end DeadSymbols
