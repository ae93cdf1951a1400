import DeadSymbols.Scan.Classify
import DeadSymbols.Scan.Event
import DeadSymbols.Scan.Outcome
import DeadSymbols.Service

/-!
# Walking an outline

The symbols of an outline are visited one after another, each before those inside it, and the
symbols to visit are kept on a stack.

* `walk`: visits the symbols on a stack until it is empty, a query fails or the user asks to stop.
* `scanFile`: opens a file, walks its outline and closes it.
-/

namespace DeadSymbols

/-- How the scan of a file ended, if no call failed. -/
inductive FileStatus where
  | scanned
  /-- The file could not be loaded or has no outline. -/
  | skipped
  /-- The walk stopped because the user asked to. -/
  | interrupted
deriving DecidableEq, Repr

/-- What the scan of a file gives. -/
structure FileScan (σ : Type) where
  status : Except Fault FileStatus
  findings : List Finding
  events : List Event
  state : σ

namespace FileScan

variable {σ : Type}

/-- A scan that ends in a state without having done anything. -/
def ended (status : Except Fault FileStatus) (state : σ) : FileScan σ := ⟨status, [], [], state⟩

/-- Puts findings and events in front of those of a scan. -/
def after (findings : List Finding) (events : List Event) (scan : FileScan σ) : FileScan σ :=
  { scan with findings := findings ++ scan.findings, events := events ++ scan.events }

end FileScan

variable {σ : Type}

/-- The finding, if any, that a symbol makes whose references were counted. No answer counts as
zero. -/
def Config.findings (config : Config) (symbol : Symbol) (file : String) (count : Option Nat) :
    List Finding :=
  if config.isUnreferenced (count.getD 0) then [Finding.ofSymbol symbol file] else []

/-- Visits the symbols on a stack. -/
def walk (config : Config) (service : Service σ) (document : Document) :
    List Symbol → σ → FileScan σ
  | [], state => .ended (.ok .scanned) state
  | symbol :: stack, state =>
    if service.cancelled state then .ended (.ok .interrupted) state
    else
      match config.visit symbol with
      | .skip => walk config service document stack state
      | .descend => walk config service document (symbol.children ++ stack) state
      | .check =>
        let asked := Event.references document.path symbol.anchor
        match service.references document symbol.anchor state with
        | (.error fault, state) => (FileScan.ended (.error fault) state).after [] [asked]
        | (.ok count, state) =>
          (walk config service document (symbol.children ++ stack) state).after
            (config.findings symbol document.path count) [asked]
termination_by stack => Symbol.weightAll stack
decreasing_by
  all_goals simp only [Symbol.weightAll, Symbol.weightAll_append, Symbol.weight_eq]; omega

/-- Asks for the outline of a document and walks it. -/
def walkDocument (config : Config) (service : Service σ) (document : Document) (state : σ) :
    FileScan σ :=
  let asked := Event.documentSymbols document.path
  match service.documentSymbols document state with
  | (.error fault, state) => (FileScan.ended (.error fault) state).after [] [asked]
  | (.ok none, state) => (FileScan.ended (.ok .skipped) state).after [] [asked]
  | (.ok (some symbols), state) =>
    (walk config service document symbols state).after [] [asked]

/-- Releases the document of a scan, if the service wants to be told. Whether that fails makes no
difference to the scan. -/
def FileScan.close (service : Service σ) (document : Document) (scan : FileScan σ) : FileScan σ :=
  match service.closeDocument with
  | none => scan
  | some close =>
    { scan with
      events := scan.events ++ [.closeDocument document.path]
      state := (close document scan.state).2 }

/-- Opens a file, walks its outline and closes it. A file that cannot be loaded is skipped. -/
def scanFile (config : Config) (service : Service σ) (path : String) (state : σ) : FileScan σ :=
  let opened := Event.openDocument path
  match service.openDocument path state with
  | (.error fault, state) =>
    let status := if fault.isLoadFailure then .ok .skipped else .error fault
    (FileScan.ended status state).after [] [opened]
  | (.ok document, state) =>
    ((walkDocument config service document state).close service document).after [] [opened]

end DeadSymbols
