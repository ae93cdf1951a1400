import DeadSymbols.Config
import DeadSymbols.Json.Record

/-!
# Reading configurations

A configuration is a record of records. It may be written in several notations, which differ in
what counts as a record, a list, a text, a truth value, a number or nothing.

* `ValueForm`: how the values of a notation are read.
* `Config.read?`: the configuration that a value stands for. What it leaves out has its default.
* `Config.ofJson?`, `Config.toJson`: configurations as JSON values.
-/

namespace DeadSymbols

/-- How the values `ν` of a notation are read. -/
structure ValueForm (ν : Type) where
  /-- The fields of a record with some known fields; what is no known field is left out. -/
  record? : List String → ν → Option (List (String × ν))
  list? : ν → Option (List ν)
  text? : ν → Option String
  flag? : ν → Option Bool
  /-- A natural number of 64 bits. -/
  count? : ν → Option Nat
  /-- A value that may be missing. -/
  optional? : ν → Option (Option ν)
  /-- Any value. -/
  any? : ν → Option Json

namespace ValueForm

variable {ν α : Type}

/-- A field of a record, or its default. -/
def field? (fields : List (String × ν)) (name : String) (default : α) (read : ν → Option α) :
    Option α :=
  match fields.lookup name with
  | none => some default
  | some v => read v

/-- A list of texts. -/
def texts? (form : ValueForm ν) (v : ν) : Option (List String) :=
  (form.list? v).bind fun vs => vs.mapM form.text?

/-- A value that may be missing. -/
def maybe? (form : ValueForm ν) (read : ν → Option α) (v : ν) : Option (Option α) :=
  (form.optional? v).bind fun
    | none => some none
    | some v => (read v).map some

end ValueForm

/-- Reads which symbols are checked. -/
def ScanConfig.read? {ν : Type} (form : ValueForm ν) (v : ν) : Option ScanConfig := do
  let fields ← form.record? ["target_kinds", "private_prefix", "max_references"] v
  let base : ScanConfig := {}
  some {
    targetKinds := ← ValueForm.field? fields "target_kinds" base.targetKinds form.texts?
    privateMark := ← ValueForm.field? fields "private_prefix" base.privateMark form.text?
    maxReferences := ← ValueForm.field? fields "max_references" base.maxReferences form.count? }

/-- Reads how the server is started. -/
def ServerConfig.read? {ν : Type} (form : ValueForm ν) (v : ν) : Option ServerConfig := do
  let fields ← form.record?
    ["command", "language_id", "initialization_options", "request_timeout_secs"] v
  let base : ServerConfig := {}
  some {
    command := ← ValueForm.field? fields "command" base.command form.texts?
    languageId := ← ValueForm.field? fields "language_id" base.languageId form.text?
    initializationOptions := ← ValueForm.field? fields "initialization_options"
      base.initializationOptions (form.maybe? form.any?)
    requestTimeout := ← ValueForm.field? fields "request_timeout_secs" base.requestTimeout
      (form.maybe? form.count?) }

/-- Reads where the report goes. -/
def ReportConfig.read? {ν : Type} (form : ValueForm ν) (v : ν) : Option ReportConfig := do
  let fields ← form.record? ["format", "output", "log_file"] v
  let base : ReportConfig := {}
  some {
    format := ← ValueForm.field? fields "format" base.format form.text?
    output := ← ValueForm.field? fields "output" base.output (form.maybe? form.text?)
    logFile := ← ValueForm.field? fields "log_file" base.logFile (form.maybe? form.text?) }

/-- Reads a configuration. -/
def Config.read? {ν : Type} (form : ValueForm ν) (v : ν) : Option Config := do
  let fields ← form.record? ["extensions", "exclude", "respect_gitignore", "deduplicate", "scan",
    "server", "report"] v
  let base : Config := {}
  some {
    extensions := ← ValueForm.field? fields "extensions" base.extensions form.texts?
    exclude := ← ValueForm.field? fields "exclude" base.exclude form.texts?
    respectIgnoreFiles := ← ValueForm.field? fields "respect_gitignore" base.respectIgnoreFiles
      form.flag?
    deduplicate := ← ValueForm.field? fields "deduplicate" base.deduplicate form.flag?
    scan := ← ValueForm.field? fields "scan" base.scan (ScanConfig.read? form)
    server := ← ValueForm.field? fields "server" base.server (ServerConfig.read? form)
    report := ← ValueForm.field? fields "report" base.report (ReportConfig.read? form) }

/-- A value that may be null. -/
def Json.present? : Json → Option (Option Json)
  | .null => some none
  | v => some (some v)

/-- JSON as a notation. A record is an object, or the array of its fields in order, of which the
last ones may be missing. -/
def Json.form : ValueForm Json where
  record? names v := v.record? names true
  list? := Json.asArray?
  text? := Json.asText?
  flag? := Json.asBool?
  count? := Json.asNat?
  optional? := Json.present?
  any? := some

/-- The configuration that a JSON value stands for. -/
def Config.ofJson? (v : Json) : Option Config := Config.read? Json.form v

/-- A value that may be missing, as JSON. -/
def Json.ofOption {α : Type} (write : α → Json) : Option α → Json
  | none => .null
  | some a => write a

/-- A list of texts, as JSON. -/
def Json.ofTexts (texts : List String) : Json := .array (texts.map .text)

/-- Which symbols are checked, as JSON. -/
def ScanConfig.toJson (c : ScanConfig) : Json :=
  .object [("target_kinds", .ofTexts c.targetKinds), ("private_prefix", .text c.privateMark),
    ("max_references", .integer c.maxReferences)]

/-- How the server is started, as JSON. -/
def ServerConfig.toJson (c : ServerConfig) : Json :=
  .object [("command", .ofTexts c.command), ("language_id", .text c.languageId),
    ("initialization_options", .ofOption id c.initializationOptions),
    ("request_timeout_secs", .ofOption (fun n => .integer n) c.requestTimeout)]

/-- Where the report goes, as JSON. -/
def ReportConfig.toJson (c : ReportConfig) : Json :=
  .object [("format", .text c.format), ("output", .ofOption .text c.output),
    ("log_file", .ofOption .text c.logFile)]

/-- A configuration as JSON, with every setting. -/
def Config.toJson (c : Config) : Json :=
  .object [("extensions", .ofTexts c.extensions), ("exclude", .ofTexts c.exclude),
    ("respect_gitignore", .bool c.respectIgnoreFiles), ("deduplicate", .bool c.deduplicate),
    ("scan", c.scan.toJson), ("server", c.server.toJson), ("report", c.report.toJson)]

end DeadSymbols
