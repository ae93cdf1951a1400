import DeadSymbols.Notice
import DeadSymbols.Path
import DeadSymbols.Scan.Walk

/-!
# Scans

Files are scanned one after another. A fault in one file does not keep the others from being
scanned, and a scan always has an outcome.

* `scanFiles`: the scan of some files, counted from `index`.
* `scan`: a whole scan with its events and notices.
-/

namespace DeadSymbols

/-- A file that may be scanned, and the folder under which it was found. -/
structure SourceFile where
  path : String
  root : String
deriving DecidableEq, Repr

/-- The path seen from a base, or the whole path of a file that is not below the base. -/
def SourceFile.relativeTo (file : SourceFile) (base : String) : String :=
  Path.relativeTo base file.path

/-- A scan of files. -/
structure ScanRun (σ : Type) where
  outcome : Outcome
  events : List Event
  notices : List Notice
  state : σ

variable {σ : Type}

namespace Outcome

/-- Counts a file that ended in some way. A file whose walk was interrupted is counted nowhere. -/
def count (status : Except Fault FileStatus) (outcome : Outcome) : Outcome :=
  match status with
  | .ok .scanned => { outcome with filesScanned := outcome.filesScanned + 1 }
  | .ok .skipped => { outcome with filesSkipped := outcome.filesSkipped + 1 }
  | .ok .interrupted => outcome
  | .error _ => { outcome with filesFailed := outcome.filesFailed + 1 }

end Outcome

/-- The notice about a file that failed. -/
def failureNotices (path : String) : Except Fault FileStatus → List Notice
  | .error fault => [.failedFile path fault]
  | .ok _ => []

/-- Puts the scan of a file in front of the scan of the files after it. -/
def ScanRun.after (relative : String) (announced : Event) (file : FileScan σ) (run : ScanRun σ) :
    ScanRun σ where
  outcome :=
    { run.outcome.count file.status with findings := file.findings ++ run.outcome.findings }
  events := announced :: (file.events ++ run.events)
  notices := failureNotices relative file.status ++ run.notices
  state := run.state

/-- Scans files, of which the first is number `index` of `total`, until the user asks to stop. -/
def scanFiles (config : Config) (base : String) (service : Service σ) (total : Nat) :
    Nat → List SourceFile → σ → ScanRun σ
  | _, [], state => ⟨{}, [], [], state⟩
  | index, file :: rest, state =>
    if service.cancelled state then ⟨{}, [], [], state⟩
    else
      let relative := file.relativeTo base
      let announced := Event.advance index s!"[{index}/{total}] Scanning {relative}"
      let one := scanFile config service file.path state
      (scanFiles config base service total (index + 1) rest one.state).after relative announced one

/-- Scans some files. -/
def scan (config : Config) (base : String) (service : Service σ) (files : List SourceFile)
    (state : σ) : ScanRun σ :=
  let total := files.length
  let run := scanFiles config base service total 1 files state
  let outcome :=
    { run.outcome with filesTotal := total, cancelled := service.cancelled run.state }
  let findings := outcome.findings.length
  { run with
    outcome := outcome
    events := .start total :: run.events ++ [.finish outcome.cancelled findings]
    notices := run.notices ++ [.scanned outcome.filesScanned total findings] }

end DeadSymbols
