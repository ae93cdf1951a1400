import DeadSymbols.FileTree
import DeadSymbols.Notice
import DeadSymbols.Report.Document

/-!
# Delivery of reports

The log goes to a file or to the error output, the document to a file or to the output.

* `deliver`: what the delivery of a report does to the files and the outputs.
* `writeLog`: a log file that is written in several parts.
-/

namespace DeadSymbols

/-- Where a report goes. -/
structure ReportOptions where
  /-- The file for the document; none for the output. -/
  output : Option String := none
  /-- The file for the log; none for the error output. -/
  logFile : Option String := none
  /-- Whether the error output stays silent. -/
  quiet : Bool := false
deriving DecidableEq, Repr

/-- Why a report cannot be delivered. -/
inductive DeliveryFault where
  | logFile (path : String)
  | output (path : String)
deriving DecidableEq, Repr

/-- The words for a fault. -/
def DeliveryFault.message : DeliveryFault → String
  | logFile path => s!"Failed to open log file: {path}"
  | output path => s!"Failed to write report: {path}"

/-- What a delivery did. -/
structure Delivery where
  result : Except DeliveryFault Unit := .ok ()
  files : FileTree
  stdout : String := ""
  stderr : String := ""
  notices : List Notice := []

/-- Writes a log file with the findings of each list after one another, in the place of what it
held before. -/
def writeLog (path : String) (lists : List (List Finding)) (files : FileTree) :
    Except DeliveryFault FileTree :=
  match files.write path (Text.encode (String.join (lists.map logText))) with
  | .ok files => .ok files
  | .error _ => .error (.logFile path)

/-- Delivers the document. -/
def deliverDocument (output : Option String) (document : String) (d : Delivery) : Delivery :=
  match output with
  | none => { d with stdout := document ++ "\n" }
  | some path =>
    match d.files.write path (Text.encode document) with
    | .ok files => { d with files := files, stdout := s!"Report written to: {path}\n" }
    | .error _ => { d with result := .error (.output path) }

/-- Delivers the log and then the document. -/
def deliver (format : ReportFormat) (options : ReportOptions) (outcome : Outcome)
    (files : FileTree) : Delivery :=
  let notices := if outcome.cancelled then [.cancelledScan outcome.findings.length] else []
  let document := format.render outcome
  match options.logFile with
  | some path =>
    match writeLog path [outcome.findings] files with
    | .error fault => { result := .error fault, files := files, notices := notices }
    | .ok files => deliverDocument options.output document { files := files, notices := notices }
  | none =>
    let stderr := if options.quiet then "" else logText outcome.findings
    deliverDocument options.output document
      { files := files, stderr := stderr, notices := notices }

end DeadSymbols
