import DeadSymbols.FileTree
import DeadSymbols.Toml.Config
import DeadSymbols.Yaml.Value

/-!
# Configuration files

A configuration file is YAML or TOML, as its extension says; with any other extension it is
whichever of the two it can be read as.

* `Config.ofFile`: the configuration in a file.
* `Config.ofFolder`: the configuration of a folder, which is the default if it has no file for it.
-/

namespace DeadSymbols

/-- Why a configuration file is of no use. -/
inductive ConfigFault where
  | unreadable (path : String)
  | notYaml
  | notToml
  | neither
deriving DecidableEq, Repr

/-- The words for a fault. What the reader of the file says under them is left out. -/
def ConfigFault.message : ConfigFault → String
  | unreadable path => s!"Failed to read config file: {path}"
  | notYaml => "Failed to parse YAML config"
  | notToml => "Failed to parse TOML config"
  | neither => "Failed to parse config file"

/-- A value, or a fault if there is none. -/
def ConfigFault.orElse {α : Type} (fault : ConfigFault) : Option α → Except ConfigFault α
  | some a => .ok a
  | none => .error fault

namespace Config

/-- The configuration in a text, with the extension of its file. -/
def ofText (extension : Option String) (text : String) : Except ConfigFault Config :=
  if extension == some "yml" || extension == some "yaml" then
    ConfigFault.notYaml.orElse (Yaml.config? text)
  else if extension == some "toml" then
    ConfigFault.notToml.orElse (Toml.config? text)
  else
    ConfigFault.neither.orElse ((Yaml.config? text).or (Toml.config? text))

/-- The configuration in a file. -/
def ofFile (tree : FileTree) (path : String) : Except ConfigFault Config :=
  match tree.readText path with
  | .ok text => ofText (Path.extension? path) text
  | .error _ => .error (.unreadable path)

/-- The names of configuration files; the first that is there counts. -/
def fileNames : List String :=
  [".deadcode.yml", ".deadcode.yaml", ".deadcode.toml", "deadcode.yml", "deadcode.yaml",
    "deadcode.toml"]

/-- The configuration of a folder. -/
def ofFolder (tree : FileTree) (folder : String) : Except ConfigFault Config :=
  match (fileNames.map (Path.join folder)).find? tree.pathExists with
  | some path => ofFile tree path
  | none => .ok {}

end Config

end DeadSymbols
