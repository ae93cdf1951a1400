import DeadSymbols.Json.Printer
import DeadSymbols.Scan.Outcome
import DeadSymbols.Text.Lower

/-!
# Report documents

* `ReportFormat.ofName`: the format with a name.
* `markdown`, `jsonReport`: the two documents.
* `logLines`: one line for each finding, and their number.
* `Outcome.toJson`: an outcome as a JSON value.
-/

namespace DeadSymbols

/-- The form of a report. -/
inductive ReportFormat where
  | markdown
  | json
deriving DecidableEq, Repr

/-- The format with a name, in any letter case, or the words that refuse the name. -/
def ReportFormat.ofName (name : String) : Except String ReportFormat :=
  let name := Text.lower name
  if name == "markdown" || name == "md" then .ok .markdown
  else if name == "json" then .ok .json
  else .error s!"unknown report format: {name}"

/-- The name of a format. -/
def ReportFormat.name : ReportFormat → String
  | markdown => "markdown"
  | json => "json"

/-- The item for a finding. -/
def Finding.item (f : Finding) : String :=
  s!"- {f.kind}: {f.name}\n  File: {f.file} (Line {f.line.toNat})\n\n"

/-- The findings as a list to read. -/
def markdown (findings : List Finding) : String :=
  s!"Found {findings.length} potentially unreferenced symbols:\n\n" ++
    if findings.isEmpty then "No unreferenced symbols found. Great job!"
    else String.join (findings.map Finding.item)

/-- A finding as an entry of the JSON report. -/
def Finding.entry (f : Finding) : Json :=
  .object [("name", .text f.name), ("kind", .text f.kind), ("file", .text f.file),
    ("line", .integer f.line.toNat)]

/-- The content of the JSON report. -/
def jsonContent (outcome : Outcome) : Json :=
  .object [
    ("version", .text "1.0"),
    ("total_findings", .integer outcome.findings.length),
    ("cancelled", .bool outcome.cancelled),
    ("files", .object [
      ("total", .integer outcome.filesTotal),
      ("scanned", .integer outcome.filesScanned),
      ("skipped", .integer outcome.filesSkipped),
      ("failed", .integer outcome.filesFailed)]),
    ("findings", .array (outcome.findings.map Finding.entry))]

/-- The JSON report. -/
def jsonReport (outcome : Outcome) : String := (jsonContent outcome).pretty

/-- The report in a format. -/
def ReportFormat.render (format : ReportFormat) (outcome : Outcome) : String :=
  match format with
  | markdown => DeadSymbols.markdown outcome.findings
  | json => jsonReport outcome

/-- The lines of the log: one for each finding, an empty one, and the number of findings. -/
def logLines (findings : List Finding) : List String :=
  findings.map Finding.text ++ ["", s!"→ Found {findings.length} unreferenced symbols."]

/-- The text of the log, each line ended. -/
def logText (findings : List Finding) : String :=
  String.join ((logLines findings).map (· ++ "\n"))

/-- A finding as a JSON value. -/
def Finding.toJson (f : Finding) : Json :=
  .object [("name", .text f.name), ("file", .text f.file), ("line", .integer f.line.toNat),
    ("kind", .text f.kind)]

/-- An outcome as a JSON value. -/
def Outcome.toJson (outcome : Outcome) : Json :=
  .object [
    ("findings", .array (outcome.findings.map Finding.toJson)),
    ("files_total", .integer outcome.filesTotal),
    ("files_scanned", .integer outcome.filesScanned),
    ("files_skipped", .integer outcome.filesSkipped),
    ("files_failed", .integer outcome.filesFailed),
    ("cancelled", .bool outcome.cancelled)]

end DeadSymbols
