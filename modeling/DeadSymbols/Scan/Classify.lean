import DeadSymbols.Config
import DeadSymbols.Outline.Basic

/-!
# Classification of symbols

* `Config.visit`: what a scan does with a symbol.
* `Config.isUnreferenced`: which reference counts make a symbol a finding.
-/

namespace DeadSymbols

/-- What a scan does with a symbol. -/
inductive Visit where
  /-- A private symbol: neither it nor anything inside it is looked at. -/
  | skip
  /-- Only what is inside the symbol is looked at. -/
  | descend
  /-- The references to the symbol are counted, and then what is inside it is looked at. -/
  | check
deriving DecidableEq, Repr

namespace Config

/-- What a scan does with a symbol. -/
def visit (config : Config) (symbol : Symbol) : Visit :=
  if config.isPrivate symbol.name then .skip
  else if config.isTargetKind symbol.kind.name then .check
  else .descend

/-- Whether a symbol with this many references is reported. The declaration counts as one. -/
def isUnreferenced (config : Config) (count : Nat) : Bool := count ≤ config.scan.maxReferences

end Config

end DeadSymbols
