import DeadSymbols.Proofs.Writing
import DeadSymbols.Report.Delivery

/-!
# What a delivery leaves behind

The log is written first and the document after it, both to places that the tree before the delivery
determines: where a path leads does not change while the log is written. So the document is what is
left if both have one place, and a second delivery finds the same places with the same contents.

* `FileTree.destination`, `FileTree.putAt`: writing to a place that may be asked for.
* `deliver_cases`: what a delivery can be.
* `deliver_isOk_iff`: when a report is delivered.
* `deliver_files`: the files after a delivery, as two such steps.
* `files_again`: a second delivery leaves the same files.
* `deliver_effects`: all that a delivery does.
-/

namespace DeadSymbols

namespace FileTree

variable {tree after : FileTree}

/-! ## Places that may be asked for -/

/-- Two paths name the same file for writing, one that is there or one that would be made. -/
def SameFile (tree : FileTree) (path other : String) : Prop :=
  ∃ place, tree.target path = .ok place ∧ tree.target other = .ok place

/-- The place of the file that is asked for, if it can be opened. -/
def destination (tree : FileTree) (path : Option String) : Option (List String) :=
  path.bind fun path => (tree.target path).toOption

/-- Puts a file at a place, if there is one. -/
def putAt (tree : FileTree) (place : Option (List String)) (content : List UInt8) : FileTree :=
  match place with
  | none => tree
  | some place => tree.put place content

theorem destination_some {path : String} {place : List String} :
    tree.destination (some path) = some place ↔ tree.target path = .ok place := by
  show (tree.target path).toOption = some place ↔ _
  cases tree.target path with
  | error cause => exact iff_of_false nofun nofun
  | ok found =>
    exact ⟨fun h => congrArg _ (Option.some.inj h), fun h => congrArg _ (Except.ok.inj h)⟩

theorem destination_eq_some {path : Option String} {place : List String}
    (h : tree.destination path = some place) :
    ∃ p, path = some p ∧ tree.target p = .ok place := by
  cases path with
  | none => cases h
  | some p => exact ⟨p, rfl, destination_some.1 h⟩

theorem IsAlike.destination (h : tree.IsAlike after) (path : Option String) :
    after.destination path = tree.destination path := by
  cases path with
  | none => rfl
  | some path => exact toOption_target h path

theorem isAlike_putAt (tree : FileTree) (path : Option String) (content : List UInt8) :
    tree.IsAlike (tree.putAt (tree.destination path) content) := by
  cases hplace : tree.destination path with
  | none => exact .refl tree
  | some place =>
    obtain ⟨p, -, htarget⟩ := destination_eq_some hplace
    exact isAlike_put htarget content

theorem putAt_unchanged (tree : FileTree) (path : Option String) (content : List UInt8)
    {names : List String} (hne : tree.destination path ≠ some names) :
    Unchanged (tree.get? names) ((tree.putAt (tree.destination path) content).get? names) := by
  cases hplace : tree.destination path with
  | none => exact .same _
  | some place =>
    obtain ⟨p, -, htarget⟩ := destination_eq_some hplace
    refine put_unchanged htarget content ?_
    rintro rfl
    exact hne hplace

theorem putAt_putAt (tree : FileTree) (place : Option (List String)) (a b : List UInt8) :
    (tree.putAt place a).putAt place b = tree.putAt place b := by
  cases place with
  | none => rfl
  | some place => exact put_put place a b

theorem putAt_same {place : Option (List String)} {content : List UInt8}
    (h : ∀ names, place = some names → tree.get? names = some (.file content)) :
    tree.putAt place content = tree := by
  cases place with
  | none => rfl
  | some names => exact put_same (h names rfl)

/-! ## A log and a document -/

/-- The files after the log and then the document were put where they are asked for. -/
def afterBoth (tree : FileTree) (logFile output : Option String) (log document : List UInt8) :
    FileTree :=
  (tree.putAt (tree.destination logFile) log).putAt (tree.destination output) document

variable {logFile output : Option String} {log document : List UInt8}

/-- The log does not change where the document goes. -/
theorem destination_after_log (tree : FileTree) (logFile output : Option String)
    (log : List UInt8) :
    (tree.putAt (tree.destination logFile) log).destination output = tree.destination output :=
  (isAlike_putAt tree logFile log).destination output

theorem isAlike_afterBoth (tree : FileTree) (logFile output : Option String)
    (log document : List UInt8) : tree.IsAlike (tree.afterBoth logFile output log document) := by
  have hlog := isAlike_putAt tree logFile log
  have hdocument := isAlike_putAt (tree.putAt (tree.destination logFile) log) output document
  rw [destination_after_log] at hdocument
  exact hlog.trans hdocument

theorem get?_document {place : List String} (h : tree.destination output = some place) :
    (tree.afterBoth logFile output log document).get? place = some (.file document) := by
  unfold afterBoth
  rw [h]
  exact get?_put place document

/-- The document changes nothing but its own place. -/
theorem document_unchanged {names : List String} (h : tree.destination output ≠ some names) :
    Unchanged ((tree.putAt (tree.destination logFile) log).get? names)
      ((tree.afterBoth logFile output log document).get? names) := by
  rw [← destination_after_log tree logFile output log] at h
  have hkept := putAt_unchanged _ output document h
  rw [destination_after_log] at hkept
  exact hkept

/-- The log stays as it was written unless the document goes to the same place. -/
theorem get?_log {place : List String} (h : tree.destination logFile = some place)
    (hne : tree.destination output ≠ some place) :
    (tree.afterBoth logFile output log document).get? place = some (.file log) := by
  have hwritten : (tree.putAt (tree.destination logFile) log).get? place = some (.file log) := by
    rw [h]
    exact get?_put place log
  exact ((document_unchanged hne).file_iff log).1 hwritten

theorem afterBoth_unchanged {names : List String} (hlog : tree.destination logFile ≠ some names)
    (hdocument : tree.destination output ≠ some names) :
    Unchanged (tree.get? names) ((tree.afterBoth logFile output log document).get? names) :=
  (putAt_unchanged tree logFile log hlog).trans (document_unchanged hdocument)

/-- What stands at a place is read from the paths that led there for writing before. -/
theorem read_afterBoth {path : String} {place : List String} (hplace : tree.target path = .ok place)
    {content : List UInt8}
    (hfile : (tree.afterBoth logFile output log document).get? place = some (.file content)) :
    (tree.afterBoth logFile output log document).read path = .ok content := by
  have hafter := (isAlike_afterBoth tree logFile output log document).destination (some path)
  rw [destination_some.2 hplace] at hafter
  exact read_of_target (destination_some.1 hafter) hfile

/-- **Writing both again changes nothing.** -/
theorem afterBoth_afterBoth (tree : FileTree) (logFile output : Option String)
    (log document : List UInt8) :
    (tree.afterBoth logFile output log document).afterBoth logFile output log document =
      tree.afterBoth logFile output log document := by
  have halike := isAlike_afterBoth tree logFile output log document
  rw [afterBoth, halike.destination, halike.destination]
  by_cases hsame : tree.destination logFile = tree.destination output
  · -- the document replaces the log both times
    unfold afterBoth
    rw [hsame, putAt_putAt, putAt_putAt, putAt_putAt]
  · have hlog : (tree.afterBoth logFile output log document).putAt (tree.destination logFile) log =
        tree.afterBoth logFile output log document := by
      apply putAt_same
      intro place hplace
      refine get?_log hplace ?_
      rintro houtput
      exact hsame (hplace.trans houtput.symm)
    rw [hlog]
    apply putAt_same
    intro place hplace
    exact get?_document hplace

end FileTree

/-! ## Reports -/

theorem writeLog_eq (path : String) (findings : List Finding) (files : FileTree) :
    writeLog path [findings] files =
      match files.target path with
      | .ok place => .ok (files.put place (Text.encode (logText findings)))
      | .error _ => .error (.logFile path) := by
  have htext : String.join ([findings].map logText) = logText findings := by
    rw [List.map_singleton, String.join_cons, String.join_nil, String.append_empty]
  rw [writeLog, htext, FileTree.write_eq]
  cases files.target path <;> rfl

theorem deliverDocument_files (output : Option String) (document : String) (d : Delivery) :
    (deliverDocument output document d).files =
      d.files.putAt (d.files.destination output) (Text.encode document) := by
  cases output with
  | none => rfl
  | some path =>
    rw [deliverDocument, FileTree.write_eq, FileTree.destination, Option.bind_some]
    cases d.files.target path <;> rfl

theorem deliverDocument_isOk_iff (output : Option String) (document : String) {d : Delivery}
    (h : d.result.isOk) :
    (deliverDocument output document d).result.isOk ↔ d.files.CanOpen output := by
  cases output with
  | none => exact iff_of_true h FileTree.canOpen_none
  | some path =>
    rw [deliverDocument, FileTree.write_eq, FileTree.canOpen_some]
    cases d.files.target path with
    | ok place => exact iff_of_true h rfl
    | error cause => exact Iff.rfl

theorem deliverDocument_stderr (output : Option String) (document : String) (d : Delivery) :
    (deliverDocument output document d).stderr = d.stderr := by
  unfold deliverDocument
  split
  · rfl
  · split <;> rfl

theorem deliverDocument_stdout (output : Option String) (document : String) {d : Delivery}
    (hresult : d.result.isOk) (hstdout : d.stdout = "") :
    (deliverDocument output document d).stdout =
      if (deliverDocument output document d).result.isOk then
        match output with
        | none => document ++ "\n"
        | some path => s!"Report written to: {path}\n"
      else "" := by
  cases output with
  | none => exact (if_pos hresult).symm
  | some path =>
    rw [deliverDocument, FileTree.write_eq]
    cases d.files.target path with
    | ok place => exact (if_pos hresult).symm
    | error cause => exact hstdout

section Deliver

variable {format : ReportFormat} {options : ReportOptions} {outcome : Outcome} {tree : FileTree}

/-- **What a delivery can be**: one that ends because the log cannot be opened, or one that goes on
to the document after the log. -/
theorem deliver_cases (format : ReportFormat) (options : ReportOptions) (outcome : Outcome)
    (tree : FileTree) :
    ∃ notices,
      (∃ path, options.logFile = some path ∧ ¬ tree.CanOpen (some path) ∧
        deliver format options outcome tree =
          { result := .error (.logFile path), files := tree, notices := notices }) ∨
      (tree.CanOpen options.logFile ∧
        deliver format options outcome tree =
          deliverDocument options.output (format.render outcome)
            { files := tree.putAt (tree.destination options.logFile)
                (Text.encode (logText outcome.findings)),
              stderr := if options.logFile = none ∧ options.quiet = false then
                logText outcome.findings else "",
              notices := notices }) := by
  refine ⟨if outcome.cancelled then [.cancelledScan outcome.findings.length] else [], ?_⟩
  unfold deliver
  cases hlog : options.logFile with
  | none =>
    refine .inr ⟨FileTree.canOpen_none, ?_⟩
    have hstderr : (if options.quiet then "" else logText outcome.findings) =
        if (none : Option String) = none ∧ options.quiet = false then logText outcome.findings
        else "" := by
      cases options.quiet <;> simp
    rw [← hstderr]
    rfl
  | some path =>
    simp only [writeLog_eq]
    cases htarget : tree.target path with
    | error cause =>
      refine .inl ⟨path, rfl, ?_, rfl⟩
      rw [FileTree.canOpen_some, htarget]
      exact Bool.false_ne_true
    | ok place =>
      refine .inr ⟨?_, ?_⟩
      · rw [FileTree.canOpen_some, htarget]
        rfl
      · have hsome : ¬ (some path = none ∧ options.quiet = false) := fun h => nomatch h.1
        rw [FileTree.destination_some.2 htarget, if_neg hsome]
        rfl

/-- **A report is delivered exactly if its files could be opened before.** That the log is written
first makes no difference. -/
theorem deliver_isOk_iff (format : ReportFormat) (options : ReportOptions) (outcome : Outcome)
    (files : FileTree) : (deliver format options outcome files).result.isOk ↔
      files.CanOpen options.logFile ∧ files.CanOpen options.output := by
  obtain ⟨notices, ⟨path, hpath, hclosed, heq⟩ | ⟨hopen, heq⟩⟩ :=
    deliver_cases format options outcome files
  · rw [heq, hpath]
    exact iff_of_false Bool.false_ne_true fun h => hclosed h.1
  · have halike := FileTree.isAlike_putAt files options.logFile
      (Text.encode (logText outcome.findings))
    rw [heq, and_iff_right hopen, ← FileTree.canOpen_congr halike]
    exact deliverDocument_isOk_iff _ _ rfl

theorem deliver_of_unopenable (h : ¬ tree.CanOpen options.logFile) :
    (deliver format options outcome tree).files = tree := by
  obtain ⟨notices, ⟨path, -, -, heq⟩ | ⟨hopen, -⟩⟩ := deliver_cases format options outcome tree
  · rw [heq]
  · exact absurd hopen h

theorem deliver_files (h : tree.CanOpen options.logFile) :
    (deliver format options outcome tree).files =
      tree.afterBoth options.logFile options.output (Text.encode (logText outcome.findings))
        (Text.encode (format.render outcome)) := by
  obtain ⟨notices, ⟨path, hpath, hclosed, -⟩ | ⟨-, heq⟩⟩ :=
    deliver_cases format options outcome tree
  · rw [hpath] at h
    exact absurd h hclosed
  · rw [heq, deliverDocument_files]
    simp only [FileTree.destination_after_log]
    rfl

theorem deliver_stderr : (deliver format options outcome tree).stderr =
    if options.logFile = none ∧ options.quiet = false then logText outcome.findings else "" := by
  obtain ⟨notices, ⟨path, hpath, -, heq⟩ | ⟨-, heq⟩⟩ := deliver_cases format options outcome tree
  · have hsome : ¬ (options.logFile = none ∧ options.quiet = false) := by
      rw [hpath]
      exact fun h => nomatch h.1
    rw [heq, if_neg hsome]
  · rw [heq, deliverDocument_stderr]

theorem deliver_stdout : (deliver format options outcome tree).stdout =
    if (deliver format options outcome tree).result.isOk then
      match options.output with
      | none => format.render outcome ++ "\n"
      | some path => s!"Report written to: {path}\n"
    else "" := by
  obtain ⟨notices, ⟨path, -, -, heq⟩ | ⟨-, heq⟩⟩ := deliver_cases format options outcome tree
  · rw [heq]
    rfl
  · rw [heq]
    exact deliverDocument_stdout _ _ rfl rfl

/-- **Delivering again leaves the same files**, whether the delivery succeeds or not. -/
theorem files_again : (deliver format options outcome
    (deliver format options outcome tree).files).files =
      (deliver format options outcome tree).files := by
  by_cases hopen : tree.CanOpen options.logFile
  · rw [deliver_files hopen]
    have hafter := (FileTree.canOpen_congr (FileTree.isAlike_afterBoth tree options.logFile
      options.output (Text.encode (logText outcome.findings))
      (Text.encode (format.render outcome))) options.logFile).2 hopen
    rw [deliver_files hafter]
    exact FileTree.afterBoth_afterBoth ..
  · rw [deliver_of_unopenable hopen, deliver_of_unopenable hopen]

theorem deliver_unchanged {names : List String}
    (hlog : tree.destination options.logFile ≠ some names)
    (houtput : tree.destination options.output ≠ some names) :
    Unchanged (tree.get? names) ((deliver format options outcome tree).files.get? names) := by
  by_cases hopen : tree.CanOpen options.logFile
  · rw [deliver_files hopen]
    exact FileTree.afterBoth_unchanged hlog houtput
  · rw [deliver_of_unopenable hopen]
    exact .same _

/-- The document is read from every path that leads to its place. -/
theorem read_document (hopen : tree.CanOpen options.logFile) {path other : String}
    {place : List String} (houtput : options.output = some path)
    (hplace : tree.target path = .ok place) (hother : tree.target other = .ok place) :
    (deliver format options outcome tree).files.read other =
      .ok (Text.encode (format.render outcome)) := by
  rw [deliver_files hopen]
  refine FileTree.read_afterBoth hother (FileTree.get?_document ?_)
  rw [houtput]
  exact FileTree.destination_some.2 hplace

/-- The log is read from its path unless the document goes to the same place. -/
theorem read_log {path : String} {place : List String} (hlog : options.logFile = some path)
    (hplace : tree.target path = .ok place)
    (hother : tree.destination options.output ≠ some place) :
    (deliver format options outcome tree).files.read path =
      .ok (Text.encode (logText outcome.findings)) := by
  have hopen : tree.CanOpen options.logFile := by
    rw [hlog, FileTree.canOpen_some, hplace]
    rfl
  rw [deliver_files hopen]
  refine FileTree.read_afterBoth hplace (FileTree.get?_log ?_ hother)
  rw [hlog]
  exact FileTree.destination_some.2 hplace

/-- What the delivery of a report does to the files and the outputs. -/
structure DeliveryEffects (format : ReportFormat) (options : ReportOptions) (outcome : Outcome)
    (before : FileTree) (d : Delivery) : Prop where
  /-- It succeeds exactly if every file that is asked for can be opened. -/
  isOk_iff : d.result.isOk ↔ before.CanOpen options.logFile ∧ before.CanOpen options.output
  /-- The log file holds the lines of the log, and nothing of what it held before. -/
  log : d.result.isOk → ∀ path, options.logFile = some path →
    (∀ other, options.output = some other → ¬ before.SameFile path other) →
    d.files.read path = .ok (Text.encode (logText outcome.findings))
  /-- A file for both holds the document alone. -/
  shared : d.result.isOk → ∀ path other, options.logFile = some path →
    options.output = some other → before.SameFile path other →
    d.files.read path = .ok (Text.encode (format.render outcome))
  /-- The output file holds the document, and one line confirms it. -/
  document : d.result.isOk → ∀ path, options.output = some path →
    d.files.read path = .ok (Text.encode (format.render outcome)) ∧
      d.stdout = s!"Report written to: {path}\n"
  /-- Without an output file the document is printed. -/
  printed : d.result.isOk → options.output = none → d.stdout = format.render outcome ++ "\n"
  /-- The log goes to the error output if it has no file and may be shown, and nothing else does. -/
  stderr : d.stderr =
    if options.logFile = none ∧ options.quiet = false then logText outcome.findings else ""
  /-- A delivery that fails prints nothing. -/
  silent : ¬ d.result.isOk → d.stdout = ""
  /-- Without a log file that can be opened, nothing is written. -/
  untouched : ¬ before.CanOpen options.logFile → d.files = before
  /-- Nothing else changes. -/
  frame : ∀ names, (∀ path, options.logFile = some path ∨ options.output = some path →
    before.target path ≠ .ok names) → Unchanged (before.get? names) (d.files.get? names)
  /-- The same delivery once more leaves all files as they are. -/
  again : (deliver format options outcome d.files).files = d.files

/-- **What a delivery does**: the log and then the document go where they are asked for, a failure
prints nothing, nothing else changes, and delivering again leaves the same files. -/
theorem deliver_effects (format : ReportFormat) (options : ReportOptions) (outcome : Outcome)
    (tree : FileTree) :
    DeliveryEffects format options outcome tree (deliver format options outcome tree) := by
  have hisOk := deliver_isOk_iff format options outcome tree
  have hplaces : ∀ path, options.logFile = some path ∨ options.output = some path →
      (deliver format options outcome tree).result.isOk →
      ∃ place, tree.target path = .ok place := by
    rintro path hpath hok
    have hopen : (tree.target path).isOk := by
      rcases hpath with h | h
      · exact (hisOk.1 hok).1 path h
      · exact (hisOk.1 hok).2 path h
    cases htarget : tree.target path with
    | error cause =>
      rw [htarget] at hopen
      cases hopen
    | ok place => exact ⟨place, rfl⟩
  refine ⟨hisOk, ?log, ?shared, ?document, ?printed, deliver_stderr, ?silent,
    deliver_of_unopenable, ?frame, files_again⟩
  case log =>
    intro hok path hpath hother
    obtain ⟨place, hplace⟩ := hplaces path (.inl hpath) hok
    refine read_log hpath hplace ?_
    intro hsame
    obtain ⟨other, houtput, htarget⟩ := FileTree.destination_eq_some hsame
    exact hother other houtput ⟨place, hplace, htarget⟩
  case shared =>
    rintro hok path other - houtput ⟨place, hplace, hsame⟩
    exact read_document (hisOk.1 hok).1 houtput hsame hplace
  case document =>
    intro hok path hpath
    obtain ⟨place, hplace⟩ := hplaces path (.inr hpath) hok
    refine ⟨read_document (hisOk.1 hok).1 hpath hplace hplace, ?_⟩
    rw [deliver_stdout, if_pos hok, hpath]
  case printed =>
    intro hok hnone
    rw [deliver_stdout, if_pos hok, hnone]
  case silent =>
    intro hfailed
    rw [deliver_stdout, if_neg hfailed]
  case frame =>
    intro names hnames
    refine deliver_unchanged ?_ ?_
    · intro hlog
      obtain ⟨path, hpath, htarget⟩ := FileTree.destination_eq_some hlog
      exact hnames path (.inl hpath) htarget
    · intro houtput
      obtain ⟨path, hpath, htarget⟩ := FileTree.destination_eq_some houtput
      exact hnames path (.inr hpath) htarget

end Deliver

/-- A folder with a former report and a link to it. -/
def linkedTree : FileTree where
  root := .folder [("report.md", .file (Text.encode "former")), ("log", .link "report.md")]
  current := []

theorem sameFile_linkedTree : linkedTree.SameFile "log" "report.md" := by
  have hroot : linkedTree.get? [] = some (.folder linkedTree.root.entries) := rfl
  have hpieces : Path.pieces "report.md" = ["report.md"] := by decide +kernel
  have hreport : ∀ links, linkedTree.writable links [] ["report.md"] = .ok ["report.md"] := by
    intro links
    rw [FileTree.writable_name hroot (by decide) (by decide) (by decide)]
    rfl
  have hlog : linkedTree.writable 40 [] ["log"] = .ok ["report.md"] := by
    rw [FileTree.writable_name hroot (by decide) (by decide) (by decide)]
    show linkedTree.writable 39 [] (Path.pieces "report.md" ++ []) = _
    rw [hpieces]
    exact hreport 39
  refine ⟨["report.md"], hlog, ?_⟩
  unfold FileTree.target
  rw [hpieces]
  exact hreport 40

/-- A log that goes to the former report by a link leaves nothing of it, and nothing of itself. -/
theorem deliver_effects_linked :
    let options : ReportOptions := { output := some "report.md", logFile := some "log" }
    let outcome : Outcome := { findings := [⟨"build", "/a.dart", 2, "method"⟩], filesTotal := 1 }
    let d := deliver .markdown options outcome linkedTree
    d.result.isOk ∧ d.files.read "log" = .ok (Text.encode (markdown outcome.findings)) ∧
      d.files.read "report.md" = .ok (Text.encode (markdown outcome.findings)) ∧
      d.stdout = "Report written to: report.md\n" ∧ d.stderr = "" := by
  intro options outcome d
  have heffects := deliver_effects .markdown options outcome linkedTree
  obtain ⟨place, hlog, houtput⟩ := sameFile_linkedTree
  have hok : d.result.isOk := by
    apply heffects.isOk_iff.2
    rw [FileTree.canOpen_some, FileTree.canOpen_some, hlog, houtput]
    exact ⟨rfl, rfl⟩
  obtain ⟨hdocument, hstdout⟩ := heffects.document hok "report.md" rfl
  exact ⟨hok, heffects.shared hok "log" "report.md" rfl rfl sameFile_linkedTree, hdocument, hstdout,
    heffects.stderr⟩

end DeadSymbols
