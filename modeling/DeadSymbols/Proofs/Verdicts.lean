import DeadSymbols.FileTree
import DeadSymbols.Proofs.Calls

/-!
# What a scan makes of answers

The outcome of a scan depends on the answers that a service gives, and on nothing else of the
service. Faults differ only in whether they say that a file could not be loaded.

* `FileAnswers.verdict`: how the scan of a file ends and what it finds, from the answers about it.
* `walkDocument_verdict`: a walk on which a service gives these answers has this verdict.
* `scanFiles_verdicts`: from the files to the scan of all of them.
* `scan_table`: the outcome of a scan that reads a table.
-/

namespace DeadSymbols

variable {config : Config} {σ : Type}

/-! ## Verdicts -/

namespace FileAnswers

/-- The places that are asked about, up to the first answer that is a fault. -/
def asked (answers : FileAnswers) : List Position → List Position
  | [] => []
  | place :: rest =>
    match answers.references place with
    | .error _ => [place]
    | .ok _ => place :: answers.asked rest

/-- The counts in the answers before the first fault. -/
def counts (answers : FileAnswers) : List Position → List (Option Nat)
  | [] => []
  | place :: rest =>
    match answers.references place with
    | .error _ => []
    | .ok count => count :: answers.counts rest

theorem asked_cons (answers : FileAnswers) (place : Position) (rest : List Position) :
    ∃ more, answers.asked (place :: rest) = place :: more := by
  rw [asked]
  split
  · exact ⟨[], rfl⟩
  · exact ⟨_, rfl⟩

/-- The symbols of the outline whose references are to be counted. -/
def symbols (answers : FileAnswers) (config : Config) : List Symbol :=
  match answers.outline with
  | .ok (some outline) => config.queried outline
  | _ => []

/-- Where these symbols are. -/
def places (answers : FileAnswers) (config : Config) : List Position :=
  (answers.symbols config).map Symbol.anchor

/-- How a walk ends, if no call fails, and what it finds. -/
def walked (answers : FileAnswers) (config : Config) (path : String) :
    Option FileStatus × List Finding :=
  let counts := answers.counts (answers.places config)
  let status :=
    match answers.outline with
    | .error _ => none
    | .ok none => some .skipped
    | .ok (some _) =>
      if counts.length = (answers.places config).length then some .scanned else none
  (status, config.reported path (answers.symbols config) counts)

/-- How the scan of a file ends, if no call fails, and what it finds. -/
def verdict (answers : FileAnswers) (config : Config) (path : String) :
    Option FileStatus × List Finding :=
  match answers.load path with
  | .error fault => (if fault.isLoadFailure then some .skipped else none, [])
  | .ok document => answers.walked config document.path

end FileAnswers

/-- What counts in the outcome of the scan of a file: which fault it was that ended the scan does
not. -/
def FileScan.verdict (scan : FileScan σ) : Option FileStatus × List Finding :=
  (scan.status.toOption, scan.findings)

/-- The outcome of files with some verdicts. -/
def Outcome.ofVerdicts : List (Option FileStatus × List Finding) → Outcome
  | [] => {}
  | (status, findings) :: rest =>
    let outcome := (Outcome.ofVerdicts rest).count
      (match status with
        | some status => .ok status
        | none => .error .unanswered)
    { outcome with findings := findings ++ outcome.findings }

/-! ## Services that give the answers -/

theorem Document.path_of_ofPath {path : String} {document : Document}
    (h : Document.ofPath path = .ok document) : document.path = path := by
  unfold Document.ofPath at h
  split at h
  · cases h
    rfl
  · cases h

/-- A path without a document is a path from which nothing can be loaded. -/
theorem Document.isLoadFailure_of_ofPath {path : String} {fault : Fault}
    (h : Document.ofPath path = .error fault) : fault.isLoadFailure = true := by
  unfold Document.ofPath at h
  split at h
  · cases h
  · cases h
    rfl

variable {service : Service σ} {document : Document}

theorem Round.toOption_status (service : Service σ) (document : Document) (places : List Position)
    (state : σ) :
    let round := service.askAll document places state
    round.status.toOption =
      if round.counts.length = places.length then some .scanned else none := by
  intro round
  obtain ⟨hall, hsome⟩ := service.length_askAll document places state
  cases hfault : round.fault with
  | none =>
    rw [Round.status_of_none hfault, if_pos (hall hfault)]
    rfl
  | some fault =>
    have hless := hsome fault hfault
    rw [Round.status_of_some hfault, if_neg (Nat.ne_of_lt hless)]
    rfl

/-- A walk on which a service gives the answers of a file has their verdict. -/
theorem walkDocument_verdict {answers : FileAnswers} {state opened : σ}
    {outline : Except Fault (Option (List Symbol))}
    (houtline : service.documentSymbols document state = (outline, opened))
    (hsame : outline.toOption = answers.outline.toOption)
    (hquiet : service.Undisturbed document (answers.places config) opened)
    (hcounts : (service.askAll document (answers.places config) opened).counts =
      answers.counts (answers.places config)) :
    let scan := walkDocument config service document state
    scan.verdict = answers.walked config document.path ∧
      scan.state = (service.askAll document (answers.places config) opened).state := by
  cases hanswer : answers.outline with
  | error fault =>
    rw [hanswer] at hsame
    -- which fault it is makes no difference
    obtain ⟨fault', rfl⟩ : ∃ fault', outline = .error fault' := by
      cases outline with
      | error fault' => exact ⟨fault', rfl⟩
      | ok o => cases hsame
    simp only [walkDocument, houtline, FileAnswers.walked, FileAnswers.places,
      FileAnswers.symbols, hanswer]
    exact ⟨rfl, rfl⟩
  | ok found =>
    rw [hanswer] at hsame
    obtain rfl : outline = .ok found := by
      cases outline with
      | error fault => cases hsame
      | ok o => rw [Option.some.inj hsame]
    cases found with
    | none =>
      simp only [walkDocument, houtline, FileAnswers.walked, FileAnswers.places,
        FileAnswers.symbols, hanswer]
      exact ⟨rfl, rfl⟩
    | some outline =>
      -- the walk is a round of queries
      have hplaces : answers.places config = (config.queried outline).map Symbol.anchor := by
        rw [FileAnswers.places, FileAnswers.symbols, hanswer]
      have hsymbols : answers.symbols config = config.queried outline := by
        rw [FileAnswers.symbols, hanswer]
      have hstatus := Round.toOption_status service document (answers.places config) opened
      rw [hplaces] at hquiet hcounts hstatus
      have hscan := walkDocument_eq houtline hquiet
      simp only [hcounts] at hscan hstatus
      simp only [hscan, FileScan.verdict, FileAnswers.walked, hanswer, hplaces, hsymbols]
      exact ⟨Prod.ext hstatus rfl, trivial⟩

theorem FileAnswers.path_of_load {answers : FileAnswers} {path : String} {document : Document}
    (h : answers.load path = .ok document) : document.path = path := by
  unfold FileAnswers.load at h
  split at h
  · cases h
  · exact Document.path_of_ofPath h

/-- A file that cannot be opened is skipped or fails. -/
theorem scanFile_unopened (config : Config) {path : String} {state after : σ} {fault : Fault}
    (hopen : service.openDocument path state = (.error fault, after)) :
    let scan := scanFile config service path state
    scan.verdict = (if fault.isLoadFailure then some .skipped else none, []) ∧
      scan.state = after := by
  simp only [scanFile, hopen]
  cases fault.isLoadFailure <;> exact ⟨rfl, rfl⟩

/-- Closing a document makes no difference to the verdict. -/
theorem scanFile_opened (config : Config) {path : String} {state after : σ}
    (hopen : service.openDocument path state = (.ok document, after)) :
    let scan := scanFile config service path state
    let walk := walkDocument config service document after
    scan.verdict = walk.verdict ∧ scan.state = (service.release document walk.state).2 := by
  simp only [scanFile, hopen, FileScan.close, Service.release]
  cases service.closeDocument <;> exact ⟨rfl, rfl⟩

/-! ## Scans of files -/

/-- **The outcome of files is that of their verdicts.** The condition `holds` is about what is
still to be scanned and the state; the scan of each file keeps it. -/
theorem scanFiles_verdicts (base : String) (total : Nat)
    (holds : List SourceFile → σ → Prop) (verdict : String → Option FileStatus × List Finding)
    (hstep : ∀ file rest state, holds (file :: rest) state →
      let scan := scanFile config service file.path state
      service.cancelled state = false ∧ scan.verdict = verdict file.path ∧ holds rest scan.state)
    (files : List SourceFile) :
    ∀ (index : Nat) (state : σ), holds files state →
      let run := scanFiles config base service total index files state
      run.outcome = Outcome.ofVerdicts (files.map fun file => verdict file.path) ∧
        holds [] run.state := by
  induction files with
  | nil => exact fun index state h => ⟨rfl, h⟩
  | cons file rest ih =>
    intro index state h
    obtain ⟨hcancelled, hverdict, hrest⟩ := hstep file rest state h
    obtain ⟨houtcome, hlast⟩ := ih (index + 1) _ hrest
    rw [scanFiles_cons hcancelled]
    refine ⟨?_, hlast⟩
    rw [List.map_cons, ← hverdict]
    simp only [ScanRun.after, houtcome, FileScan.verdict, Outcome.ofVerdicts]
    -- a status counts by its kind only
    cases (scanFile config service file.path state).status with
    | error fault => rfl
    | ok status => cases status <;> rfl

/-- The outcome of a whole scan that nobody stops. -/
theorem scan_verdicts (base : String) (holds : List SourceFile → σ → Prop)
    (verdict : String → Option FileStatus × List Finding)
    (hstep : ∀ file rest state, holds (file :: rest) state →
      let scan := scanFile config service file.path state
      service.cancelled state = false ∧ scan.verdict = verdict file.path ∧ holds rest scan.state)
    (hend : ∀ state, holds [] state → service.cancelled state = false)
    (files : List SourceFile) (state : σ) (h : holds files state) :
    let run := scan config base service files state
    run.outcome = { Outcome.ofVerdicts (files.map fun file => verdict file.path) with
      filesTotal := files.length, cancelled := false } ∧ holds [] run.state := by
  obtain ⟨houtcome, hlast⟩ :=
    scanFiles_verdicts base files.length holds verdict hstep files 1 state h
  refine ⟨?_, hlast⟩
  have hcancelled := hend _ hlast
  simp only [scan, houtcome, hcancelled]

/-! ## Tables -/

/-- The same answers about a file that is loaded from a tree: it fails to load if it cannot be read
as text. -/
def FileAnswers.readFrom (answers : FileAnswers) (tree : FileTree) (path : String) : FileAnswers :=
  { answers with
    loading :=
      match tree.readText path with
      | .ok _ => none
      | .error cause => some (.load path cause) }

theorem FileAnswers.counts_readFrom (answers : FileAnswers) (tree : FileTree) (path : String)
    (places : List Position) :
    (answers.readFrom tree path).counts places = answers.counts places := by
  induction places with
  | nil => rfl
  | cons place rest ih =>
    rw [counts, counts, ih]
    rfl

/-- Where a file is loaded from makes no difference to a walk. -/
theorem FileAnswers.walked_readFrom (answers : FileAnswers) (tree : FileTree) (path : String)
    (config : Config) (file : String) :
    (answers.readFrom tree path).walked config file = answers.walked config file := by
  unfold walked
  rw [counts_readFrom]
  rfl

/-- Calls that nobody stops. -/
def CallCount.IsFree (calls : CallCount) : Prop := calls.cancelAt = none ∧ calls.cancelled = false

theorem CallCount.IsFree.next {calls : CallCount} (h : calls.IsFree) : calls.next.IsFree := by
  obtain ⟨hnever, hrun⟩ := h
  exact ⟨hnever, by simp [CallCount.next, hnever, hrun]⟩

theorem askAll_table (answers : String → FileAnswers) (releases : Bool) (document : Document)
    (places : List Position) (calls : CallCount) (h : calls.IsFree) :
    let round := (table answers releases).askAll document places calls
    round.counts = (answers document.path).counts places ∧ round.state.IsFree := by
  induction places generalizing calls with
  | nil => exact ⟨rfl, h⟩
  | cons place rest ih =>
    obtain ⟨hcounts, hfree⟩ := ih calls.next h.next
    cases ha : (answers document.path).references place with
    | error fault =>
      simp only [Service.askAll, table, FileAnswers.counts, ha]
      exact ⟨trivial, h.next⟩
    | ok count =>
      simp only [Service.askAll, table, FileAnswers.counts, ha]
      exact ⟨congrArg (count :: ·) hcounts, hfree⟩

theorem release_table (answers : String → FileAnswers) (releases : Bool) (document : Document)
    {calls : CallCount} (h : calls.IsFree) :
    ((table answers releases).release document calls).2.IsFree := by
  cases releases with
  | false => exact h
  | true => exact h.next

/-- The verdict on a file whose answers stand in a table. -/
theorem scanFile_table (answers : String → FileAnswers) (releases : Bool) (path : String)
    (calls : CallCount) (h : calls.IsFree) :
    let scan := scanFile config (table answers releases) path calls
    scan.verdict = (answers path).verdict config path ∧ scan.state.IsFree := by
  cases hload : (answers path).load path with
  | error fault =>
    have hopen : (table answers releases).openDocument path calls = (.error fault, calls.next) :=
      Prod.ext hload rfl
    obtain ⟨hverdict, hstate⟩ := scanFile_unopened config hopen
    simp only [hstate, FileAnswers.verdict, hload]
    exact ⟨hverdict, h.next⟩
  | ok document =>
    have hpath := FileAnswers.path_of_load hload
    have hopen : (table answers releases).openDocument path calls = (.ok document, calls.next) :=
      Prod.ext hload rfl
    obtain ⟨hverdict, hstate⟩ := scanFile_opened config hopen
    obtain ⟨hcounts, hfree⟩ := askAll_table answers releases document
      ((answers path).places config) calls.next.next h.next.next
    rw [hpath] at hcounts
    have houtline : (table answers releases).documentSymbols document calls.next =
      ((answers document.path).outline, calls.next.next) := rfl
    obtain ⟨hwalked, hlast⟩ := walkDocument_verdict houtline (by rw [hpath])
      (table_undisturbed answers releases document _ _ h.next.next.1 h.next.next.2) hcounts
    refine ⟨?_, ?_⟩
    · rw [hverdict, hwalked, FileAnswers.verdict, hload]
    · rw [hstate, hlast]
      exact release_table answers releases document hfree

/-- **The outcome of a scan that reads a table.** -/
theorem scan_table (config : Config) (base : String) (answers : String → FileAnswers)
    (releases : Bool) (files : List SourceFile) :
    (scan config base (table answers releases) files {}).outcome =
      { Outcome.ofVerdicts (files.map fun file => (answers file.path).verdict config file.path) with
        filesTotal := files.length, cancelled := false } := by
  refine (scan_verdicts base (fun _ calls => CallCount.IsFree calls)
    (fun path => (answers path).verdict config path) ?_ (fun calls h => h.2) files {} ⟨rfl, rfl⟩).1
  intro file rest calls h
  exact ⟨h.2, scanFile_table answers releases file.path calls h⟩

end DeadSymbols
