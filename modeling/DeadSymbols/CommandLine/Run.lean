import DeadSymbols.CommandLine.Options
import DeadSymbols.Config.Load
import DeadSymbols.Discovery.Find
import DeadSymbols.Report.Delivery
import DeadSymbols.Selection
import DeadSymbols.Session.Launch

/-!
# Runs of the program

A run settles what is to be scanned, starts the server, scans the files and delivers a report. It
stops before the server is started if there is nothing to scan. Once the server has introduced
itself, the report is always delivered, whatever happens to single files and to the farewell, unless
the run waits for ever in a request without a limit. Nobody interrupts a run, and the progress that
it shows while it scans is left out.

* `Stage`: a part of a run, which finds files and leaves files.
* `Plan.ofOptions`: what is to be scanned.
* `Client.survey`: a whole conversation about some files.
* `Run.ofOptions`: a run of a scan.
* `Run.ofWordsAt`, `Run.ofWords`: a run of the program with the words of its command line.
-/

namespace DeadSymbols

namespace CommandLine

/-- A part of a run: it finds files, and leaves them as they are afterwards. -/
abbrev Stage := StateM FileTree

/-- A part of a run that only reads the files. -/
def Stage.reading {α : Type} (read : FileTree → α) : Stage α := do return read (← get)

/-- Why a run stops before the report. -/
inductive Stop where
  | noFolders
  | noFiles (label : String)
  | invalidRoot (path : String) (cause : OsError)
  | config (fault : ConfigFault)
  | format (message : String)
  | picking (message : String)
  | pattern (fault : InvalidPattern)
  | server (fault : Fault)

namespace Stop

/-- What the output says, but for the colours that a terminal shows. -/
def output : Stop → String
  | noFolders => "No folders selected – aborting.\n"
  | noFiles label => s!"No {label} files found in the selected folders.\n"
  | _ => ""

/-- What went wrong; nothing if there is just nothing to do. -/
def failure? : Stop → Option String
  | noFolders | noFiles _ => none
  | invalidRoot path cause => some s!"Invalid project root: {path}: {cause.message}"
  | config fault => some fault.message
  | format message => some message
  | picking message => some message
  | pattern fault => some fault.message
  | server fault => some s!"Failed to start the language server: {fault.message}"

end Stop

/-- What is to be scanned. -/
structure Plan where
  /-- The path of the project, free of links. -/
  root : String
  config : Config
  format : ReportFormat
  files : List SourceFile

/-- The project's path, the configuration with the settings of the command line, and the format of
the report. -/
def settle (tree : FileTree) (options : Options) :
    Except Stop (String × Config × ReportFormat) :=
  let given := options.root.getD "."
  match tree.locate given with
  | .error cause => .error (.invalidRoot given cause)
  | .ok (names, _) =>
    let root := Path.ofNames names
    let loaded := match options.config with
      | some path => Config.ofFile tree path
      | none => Config.ofFolder tree root
    match loaded with
    | .error fault => .error (.config fault)
    | .ok config =>
      let config := options.applyTo config
      match ReportFormat.ofName config.report.format with
      | .error message => .error (.format message)
      | .ok format => .ok (root, config, format)

/-- Finds out what is to be scanned. -/
def Plan.ofOptions (picker : Picker) (options : Options) :
    Stage (Except Stop Plan × List Notice) := do
  match ← Stage.reading (settle · options) with
  | .error stop => return (.error stop, [])
  | .ok (root, config, format) =>
    match ← Stage.reading (picker.folders · root options.folders) with
    | .error message => return (.error (.picking message), [])
    | .ok folders =>
      if folders.isEmpty then return (.error .noFolders, [])
      else
        match ← Stage.reading (findFiles config · folders) with
        | (.error fault, notices) => return (.error (.pattern fault), notices)
        | (.ok files, notices) =>
          if files.isEmpty then return (.error (.noFiles config.label), notices)
          else return (.ok ⟨root, config, format, files⟩, notices)

end CommandLine

/-- What a conversation about some files brought. -/
structure Survey where
  outcome : Outcome
  notices : List Notice
  farewell : Except Fault Unit

/-- What a survey tells besides its outcome. -/
def Survey.warnings (survey : Survey) : List Notice :=
  let failed := survey.outcome.filesFailed
  survey.notices ++ (if 0 < failed then [.failedFiles failed] else []) ++
    match survey.farewell with
    | .ok () => []
    | .error fault => [.failedFarewell fault]

/-- A whole conversation about some files: the handshake, the scan and the farewell. It fails only
if the handshake does. -/
def Client.survey {σ : Type} (client : Client σ) (root : String) (config : Config)
    (files : List SourceFile) (s : Session σ) : Except Fault Survey × Session σ :=
  Client.andThen (client.handshake root config.server.initializationOptions s) fun _ s =>
    let run := scan config root client.service files s
    let (farewell, s) := client.shutdown run.state
    (.ok ⟨run.outcome, run.notices, farewell⟩, s)

namespace CommandLine

/-- How a run ends. -/
inductive Conclusion where
  | refused (fault : UsageFault)
  | informed (text : String)
  | stopped (stop : Stop)
  /-- The run has no end of its own: it waits for an answer that never comes, or is given up. What
  it told its user before that is left out. -/
  | abandoned
  | reported (delivery : Delivery)

/-- A run of the program. -/
structure Run (σ : Type) where
  conclusion : Conclusion
  notices : List Notice := []
  /-- The session with the server, if it was started. -/
  session : Option (Session σ) := none
  /-- The files as the last stage left them, if there was any stage. -/
  left : Option FileTree := none

namespace Run

variable {σ : Type}

/-- The status with which the program ends: 0 for success, 1 for a failure, 2 for a command line of
no use. A run that somebody else has to end counts as a failure. -/
def status (run : Run σ) : Nat :=
  match run.conclusion with
  | .refused _ => 2
  | .informed _ => 0
  | .stopped stop => if stop.failure?.isSome then 1 else 0
  | .abandoned => 1
  | .reported delivery => if delivery.result.isOk then 0 else 1

/-- What the program writes to the output. -/
def output (run : Run σ) : String :=
  match run.conclusion with
  | .refused _ | .abandoned => ""
  | .informed text => text
  | .stopped stop => stop.output
  | .reported delivery => delivery.stdout

/-- The words for the failure in which the run ends. -/
def failure? (run : Run σ) : Option String :=
  match run.conclusion with
  | .refused fault => some fault.message
  | .informed _ | .abandoned => none
  | .stopped stop => stop.failure?
  | .reported delivery =>
    match delivery.result with
    | .ok () => none
    | .error fault => some fault.message

/-- The files after a run that found them as `tree`. -/
def files (tree : FileTree) (run : Run σ) : FileTree := run.left.getD tree

/-- Delivers a report. -/
def delivering (format : ReportFormat) (options : ReportOptions) (outcome : Outcome) :
    Stage Delivery := do
  let delivery := deliver format options outcome (← get)
  set delivery.files
  return delivery

/-- Carries out a plan. The documents of the conversation are read from the files as they are
then. -/
def ofPlan (launcher : Launcher σ) (processId : Nat) (quiet : Bool) (plan : Plan) :
    Stage (Run σ) := do
  let server := plan.config.server
  match ← Stage.reading (Client.start launcher · processId server plan.root) with
  | .error fault => return { conclusion := .stopped (.server fault) }
  | .ok (client, session) =>
    let (result, session) ← Stage.reading fun files =>
      { client with files := files }.survey plan.root plan.config plan.files session
    if session.isAbandoned then return { conclusion := .abandoned, session := some session }
    else
      match result with
      | .error fault => return { conclusion := .stopped (.server fault), session := some session }
      | .ok survey =>
        let report := plan.config.report
        let delivery ←
          delivering plan.format ⟨report.output, report.logFile, quiet⟩ survey.outcome
        return {
          conclusion := .reported delivery
          notices := survey.warnings ++ delivery.notices
          session := some session }

/-- A run of a scan. -/
def ofOptions (picker : Picker) (launcher : Launcher σ) (processId : Nat) (options : Options) :
    Stage (Run σ) := do
  match ← Plan.ofOptions picker options with
  | (.error stop, notices) => return { conclusion := .stopped stop, notices := notices }
  | (.ok plan, notices) =>
    let run ← ofPlan launcher processId options.quiet plan
    return { run with notices := notices ++ run.notices }

/-- How the program is used. -/
def usage : String := s!"Usage: {Message.clientName} [OPTIONS] [FOLDERS]...\n"

/-- A run of the program with the words of its command line, for a user who may be asked for
folders. -/
def ofWordsAt (picker : Picker) (launcher : Launcher σ) (tree : FileTree) (processId : Nat)
    (words : List String) : Run σ :=
  match Order.ofWords words with
  | .error fault => { conclusion := .refused fault }
  | .ok .help => { conclusion := .informed usage }
  | .ok .version =>
    { conclusion := .informed s!"{Message.clientName} {Message.clientVersion}\n" }
  | .ok (.scan options) =>
    let (run, left) := (ofOptions picker launcher processId options).run tree
    { run with left := some left }

/-- A run of the program away from a terminal. -/
def ofWords (launcher : Launcher σ) (tree : FileTree) (processId : Nat) (words : List String) :
    Run σ := ofWordsAt .nobody launcher tree processId words

end Run

end CommandLine

end DeadSymbols
