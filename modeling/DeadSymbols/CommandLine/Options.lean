import DeadSymbols.CommandLine.Word
import DeadSymbols.Config
import DeadSymbols.Report.Document
import DeadSymbols.Text.Natural
import DeadSymbols.Text.Space

/-!
# Options

What a command line asks for. A setting that is no list and a switch may be given only once. The
arguments count in their order, so that a request for help stands even if a later argument is of
no use.

* `Order.ofWords`: what the words of a command line ask for.
* `Options.applyTo`: a configuration with the settings of a command line.
-/

namespace DeadSymbols.CommandLine

/-- What a scan is asked to do. -/
structure Options where
  folders : List String := []
  config : Option String := none
  root : Option String := none
  exclude : List String := []
  extensions : List String := []
  /-- The command line of the server. -/
  server : Option String := none
  format : Option ReportFormat := none
  output : Option String := none
  logFile : Option String := none
  maxReferences : Option Nat := none
  /-- The longest wait for an answer, in seconds. -/
  timeout : Option Nat := none
  deduplicate : Bool := false
  verbose : Bool := false
  quiet : Bool := false
deriving DecidableEq, Repr

/-- Why a command line is of no use. -/
inductive UsageFault where
  | unknownOption (name : String)
  | missingValue (name : String)
  | needlessValue (name : String)
  | invalidValue (name : String) (value : String)
  | repeated (name : String)
deriving DecidableEq, Repr

/-- The words for a fault. -/
def UsageFault.message : UsageFault → String
  | unknownOption name => s!"error: unknown option '{name}'"
  | missingValue name => s!"error: '--{name}' needs a value"
  | needlessValue name => s!"error: '--{name}' takes no value"
  | invalidValue name value => s!"error: invalid value '{value}' for '{name}'"
  | repeated name => s!"error: '--{name}' cannot be used more than once"

/-- What a command line asks for. -/
inductive Order where
  | help
  | version
  | scan (options : Options)
deriving DecidableEq, Repr

/-- A path, which is never empty. -/
def path? (value : String) : Option String := if value.isEmpty then none else some value

/-- The format with exactly this name. -/
def format? (value : String) : Option ReportFormat :=
  [ReportFormat.markdown, ReportFormat.json].find? (·.name == value)

/-- A value for a setting that may be given once, and has the value `old` so far. -/
def once {α : Type} (s : Setting) (value : String) (old new : Option α) :
    Except UsageFault (Option α) :=
  match new, old with
  | none, _ => .error (.invalidValue s.name value)
  | some _, some _ => .error (.repeated s.name)
  | some a, none => .ok (some a)

namespace Options

/-- Takes the value of a setting. -/
def set (s : Setting) (value : String) (o : Options) : Except UsageFault Options :=
  match s with
  | .config => (once s value o.config (path? value)).map fun v => { o with config := v }
  | .root => (once s value o.root (path? value)).map fun v => { o with root := v }
  | .exclude => .ok { o with exclude := o.exclude ++ [value] }
  | .extension => .ok { o with extensions := o.extensions ++ [value] }
  | .server => (once s value o.server (some value)).map fun v => { o with server := v }
  | .format => (once s value o.format (format? value)).map fun v => { o with format := v }
  | .output => (once s value o.output (path? value)).map fun v => { o with output := v }
  | .logFile => (once s value o.logFile (path? value)).map fun v => { o with logFile := v }
  | .maxReferences =>
    (once s value o.maxReferences (Text.natural? Text.maxUInt64 value)).map fun v =>
      { o with maxReferences := v }
  | .timeout =>
    (once s value o.timeout (Text.natural? Text.maxUInt64 value)).map fun v =>
      { o with timeout := v }

/-- Whether a switch is on. The two that ask for no scan never are. -/
def isOn (s : Switch) (o : Options) : Bool :=
  match s with
  | .deduplicate => o.deduplicate
  | .verbose => o.verbose
  | .quiet => o.quiet
  | .help | .version => false

/-- Turns a switch on. -/
def turnOn (s : Switch) (o : Options) : Options :=
  match s with
  | .deduplicate => { o with deduplicate := true }
  | .verbose => { o with verbose := true }
  | .quiet => { o with quiet := true }
  | .help | .version => o

/-- Takes one argument. -/
def take (argument : Argument) (o : Options) : Except UsageFault Options :=
  match argument with
  | .folder path =>
    if path.isEmpty then .error (.invalidValue "FOLDERS" path)
    else .ok { o with folders := o.folders ++ [path] }
  | .switch s => if o.isOn s then .error (.repeated s.name) else .ok (o.turnOn s)
  | .setting s value => o.set s value
  | .unknown name => .error (.unknownOption name)
  | .unset s => .error (.missingValue s.name)
  | .overset s => .error (.needlessValue s.name)

/-- A configuration with the settings of a command line, which come before its own. Patterns to
exclude are added to those that it has. -/
def applyTo (o : Options) (config : Config) : Config :=
  { config with
    exclude := config.exclude ++ o.exclude
    extensions :=
      if o.extensions.isEmpty then config.extensions
      else o.extensions.map fun e => String.ofList (e.toList.dropWhile (· == '.'))
    deduplicate := config.deduplicate || o.deduplicate
    scan := { config.scan with
      maxReferences := o.maxReferences.getD config.scan.maxReferences }
    server := { config.server with
      command := (o.server.map Text.words).getD config.server.command
      requestTimeout := o.timeout.or config.server.requestTimeout }
    report := {
      format := (o.format.map ReportFormat.name).getD config.report.format
      output := o.output.or config.report.output
      logFile := o.logFile.or config.report.logFile } }

end Options

namespace Order

/-- What some arguments ask for, after others that gave `options`. -/
def ofArguments (options : Options) : List Argument → Except UsageFault Order
  | [] => .ok (.scan options)
  | .switch .help :: _ => .ok .help
  | .switch .version :: _ => .ok .version
  | argument :: rest =>
    match options.take argument with
    | .error fault => .error fault
    | .ok options => ofArguments options rest

/-- What the words of a command line ask for. -/
def ofWords (words : List String) : Except UsageFault Order := ofArguments {} (arguments words)

end Order

end DeadSymbols.CommandLine
