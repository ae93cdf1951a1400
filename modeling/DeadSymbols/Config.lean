import DeadSymbols.Json.Basic
import DeadSymbols.Text.Lower

/-!
# Configuration

What is scanned, which symbols are checked, how the language server is started and where the
report goes. Every setting has a default.

* `Config.isPrivate`, `Config.isTargetKind`: which symbols are passed over, and which are checked.
* `Config.label`: the extensions of source files, for display.
-/

namespace DeadSymbols

/-- Which symbols are checked and reported. -/
structure ScanConfig where
  /-- The names of the kinds that are checked. -/
  targetKinds : List String := ["method", "constructor", "field", "property", "variable"]
  /-- How private names start; empty if no name is private. -/
  privateMark : String := "_"
  /-- A symbol with at most this many references is reported. -/
  maxReferences : Nat := 1
deriving BEq, Repr

/-- How the language server is started and spoken to. -/
structure ServerConfig where
  command : List String := ["dart", "language-server", "--protocol=lsp"]
  languageId : String := "dart"
  initializationOptions : Option Json := none
  /-- The longest wait for an answer, in seconds. -/
  requestTimeout : Option Nat := none
deriving BEq, Repr

/-- What the report looks like and where it goes. -/
structure ReportConfig where
  format : String := "markdown"
  output : Option String := none
  logFile : Option String := none
deriving BEq, Repr

/-- All settings. -/
structure Config where
  /-- The extensions of source files, without the dot. -/
  extensions : List String := ["dart"]
  /-- Globs of files that are left out. -/
  exclude : List String := ["**/.dart_tool/**", "**/*.g.dart", "**/*.freezed.dart"]
  /-- Whether ignore files count. -/
  respectIgnoreFiles : Bool := true
  /-- Whether a file that was found under an earlier folder is left out. -/
  deduplicate : Bool := false
  scan : ScanConfig := {}
  server : ServerConfig := {}
  report : ReportConfig := {}
deriving BEq, Repr

namespace Config

/-- Whether a name is private. -/
def isPrivate (config : Config) (name : String) : Bool :=
  !config.scan.privateMark.isEmpty && config.scan.privateMark.toList.isPrefixOf name.toList

/-- Whether symbols of a kind are checked. The letter case of `A` to `Z` makes no difference. -/
def isTargetKind (config : Config) (kind : String) : Bool :=
  config.scan.targetKinds.any fun k => Text.lowerAscii k == Text.lowerAscii kind

/-- The extensions with their dots, as one text. -/
def label (config : Config) : String :=
  "/".intercalate (config.extensions.map ("." ++ ·))

end Config

end DeadSymbols
