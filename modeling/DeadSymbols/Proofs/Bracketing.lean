import DeadSymbols.Proofs.Endings

/-!
# Documents are opened and closed in turn

A scan has at most one document open at a time. Whatever fails, and whenever the user asks to stop,
a document that was opened is closed before the next one is opened and before the scan ends.

* `Call.next`: the document that is open after a call, if the call may be made at all.
* `FileCalls.bracketed`: the scan of a file leaves nothing open.
* `scan_brackets`: the events and the calls of a scan.
-/

namespace DeadSymbols

variable {config : Config} {σ : Type} {path : String} {calls : List Call}

namespace Call

/-- The document that is open after a call, if the call may be made when `current` is open. A
document may be opened when none is open, and only the open one may be asked about or closed. -/
def next (current : Option Document) : Call → Option (Option Document)
  | .openDocument _ answer => if current = none then some answer.toOption else none
  | .documentSymbols document _ => if current = some document then some current else none
  | .references document _ _ => if current = some document then some current else none
  | .closeDocument document _ => if current = some document then some none else none

/-- The document that a call opened. -/
def opened? : Call → Option Document
  | .openDocument _ answer => answer.toOption
  | _ => none

/-- The document that a call closed, with or without a fault. -/
def closed? : Call → Option Document
  | .closeDocument document _ => some document
  | _ => none

end Call

/-! ## The calls about a file -/

/-- A walk only asks for references to symbols of its document. -/
theorem WalkEnds.queries {document : Document} {stack : List Symbol}
    {status : Except Fault FileStatus} (h : WalkEnds config document stack calls status) :
    ∀ call ∈ calls, ∃ place answer, call = .references document place answer := by
  have hanswered : ∀ counts, ∀ call ∈ config.answered document stack counts,
      ∃ place answer, call = .references document place answer := by
    intro counts call hcall
    obtain ⟨p, -, rfl⟩ := List.mem_map.1 hcall
    exact ⟨_, _, rfl⟩
  cases h with
  | scanned counts hall => exact hanswered counts
  | failed before asked after counts fault hqueried hcounts =>
    intro call hcall
    rcases List.mem_append.1 hcall with hcall | hcall
    · exact hanswered counts call hcall
    · rw [List.mem_singleton.1 hcall]
      exact ⟨_, _, rfl⟩
  | interrupted seen next rest counts hreached hcounts => exact hanswered counts

/-- However the scan of a file ends, it fails to open it or opens, queries and closes one
document. -/
theorem FileEnds.fileCalls {status : Except Fault FileStatus}
    (h : FileEnds config path calls status) : FileCalls path calls := by
  cases h with
  | unloaded fault hload => exact .failed fault
  | unopened fault hload => exact .failed fault
  | unlisted document closed => exact .opened document (.ok none) [] (by simp) closed
  | refused document fault closed => exact .opened document (.error fault) [] (by simp) closed
  | walked document outline queries status hwalk closed =>
    exact .opened document (.ok (some outline)) queries hwalk.queries closed

/-- Queries for references leave their document open. -/
theorem foldlM_next_queries (document : Document) {queries : List Call}
    (h : ∀ call ∈ queries, ∃ place answer, call = .references document place answer) :
    queries.foldlM Call.next (some document) = some (some document) := by
  induction queries with
  | nil => rfl
  | cons call rest ih =>
    rw [List.forall_mem_cons] at h
    obtain ⟨⟨place, answer, rfl⟩, hrest⟩ := h
    simp [Call.next, ih hrest]

namespace FileCalls

/-- Nothing is open before the scan of a file, and nothing after it. -/
theorem bracketed (h : FileCalls path calls) : calls.foldlM Call.next none = some none := by
  cases h with
  | failed fault => rfl
  | opened document outline queries hqueries closed =>
    have hqueried := foldlM_next_queries document hqueries
    simp [Call.next, Except.toOption, hqueried]

/-- The document that is opened, if there is one, is the one that is closed. -/
theorem opened_eq_closed (h : FileCalls path calls) :
    calls.filterMap Call.opened? = calls.filterMap Call.closed? := by
  cases h with
  | failed fault => rfl
  | opened document outline queries hqueries closed =>
    -- queries open and close nothing
    have hnone : ∀ call ∈ queries, call.opened? = none ∧ call.closed? = none := by
      intro call hcall
      obtain ⟨place, answer, rfl⟩ := hqueries call hcall
      exact ⟨rfl, rfl⟩
    have hopened : queries.filterMap Call.opened? = [] :=
      List.filterMap_eq_nil_iff.2 fun call hcall => (hnone call hcall).1
    have hclosed : queries.filterMap Call.closed? = [] :=
      List.filterMap_eq_nil_iff.2 fun call hcall => (hnone call hcall).2
    simp [List.filterMap_cons, Call.opened?, Call.closed?, Except.toOption, hopened, hclosed]

end FileCalls

/-! ## Whole scans -/

section Records

variable {records : List FileRecord}

theorem foldlM_next_records (h : ∀ r ∈ records, FileCalls r.file.path r.calls) :
    (records.flatMap FileRecord.calls).foldlM Call.next none = some none := by
  induction records with
  | nil => rfl
  | cons r rest ih =>
    rw [List.forall_mem_cons] at h
    -- nothing is open after the first file, just as before it
    rw [List.flatMap_cons, List.foldlM_append, h.1.bracketed]
    exact ih h.2

theorem opened_eq_closed_records (h : ∀ r ∈ records, FileCalls r.file.path r.calls) :
    (records.flatMap FileRecord.calls).filterMap Call.opened? =
      (records.flatMap FileRecord.calls).filterMap Call.closed? := by
  induction records with
  | nil => rfl
  | cons r rest ih =>
    rw [List.forall_mem_cons] at h
    rw [List.flatMap_cons, List.filterMap_append, List.filterMap_append, h.1.opened_eq_closed,
      ih h.2]

end Records

/-- Whether an event begins or ends a whole scan. -/
def Event.isBoundary : Event → Bool
  | .start _ => true
  | .finish _ _ => true
  | _ => false

theorem FileRecord.filter_isBoundary (base : String) (total index : Nat) (r : FileRecord) :
    (r.events base total index).filter Event.isBoundary = [] := by
  rw [List.filter_eq_nil_iff]
  intro event hevent
  rcases List.mem_cons.1 hevent with rfl | hevent
  · exact Bool.false_ne_true
  · obtain ⟨call, -, rfl⟩ := List.mem_map.1 hevent
    cases call <;> exact Bool.false_ne_true

/-- **Documents are opened and closed in turn.** Let the user ask to stop during any call of a
scan, before it or never, and let any call fail. The scan starts, announces the first files of the
list one after another, makes its calls about each of them, and finishes. The calls about a file are
an open that fails, or an open, a query for the outline, queries for references and a close of one
document. So there is never more than one document open, the documents that are opened are closed
in the same order, each before the next one is opened, and none is open when the scan finishes. -/
theorem scan_brackets (config : Config) (base : String) (service : Service σ)
    (stopAt : Option Nat) (files : List SourceFile) (state : σ) :
    let run := scan config base (service.watched stopAt) files ⟨state, []⟩
    let total := files.length
    let start := Event.start total
    let finish := Event.finish run.outcome.cancelled run.outcome.findings.length
    ∃ (records : List FileRecord) (unstarted : List SourceFile),
      files = records.map FileRecord.file ++ unstarted ∧
      run.events =
        start :: ((records.zipIdx 1).flatMap fun p => p.1.events base total p.2) ++ [finish] ∧
      run.events.filter Event.isBoundary = [start, finish] ∧
      (∀ r ∈ records, FileCalls r.file.path r.calls) ∧
      run.state.calls = records.flatMap FileRecord.calls ∧
      run.state.calls.foldlM Call.next none = some none ∧
      run.state.calls.filterMap Call.opened? = run.state.calls.filterMap Call.closed? := by
  intro run total start finish
  obtain ⟨records, unstarted, h⟩ :=
    scanFiles_covers config base service stopAt total files 1 ⟨state, []⟩
  have hcalls : run.state.calls = records.flatMap FileRecord.calls := h.calls
  have hevents : run.events =
      start :: ((records.zipIdx 1).flatMap fun p => p.1.events base total p.2) ++ [finish] := by
    rw [← h.events]
    rfl
  have hfiles : ∀ r ∈ records, FileCalls r.file.path r.calls :=
    fun r hr => (h.ends r hr).fileCalls
  refine ⟨records, unstarted, h.files, hevents, ?_, hfiles, hcalls, ?_, ?_⟩
  · have hinside : ((records.zipIdx 1).flatMap fun p =>
        p.1.events base total p.2).filter Event.isBoundary = [] := by
      simp [List.filter_flatMap, FileRecord.filter_isBoundary]
    rw [hevents, List.filter_append, List.filter_cons_of_pos rfl, hinside]
    rfl
  · rw [hcalls]
    exact foldlM_next_records hfiles
  · rw [hcalls]
    exact opened_eq_closed_records hfiles

/-- The user asks to stop during the first query about the third file, after a query failed and a file
could not be loaded. Both documents that were opened are closed. -/
theorem scan_brackets_troubled :
    let run := troubledScan (some 9)
    run.state.calls.foldlM Call.next none = some none ∧
      run.state.calls.filterMap Call.closed? =
        [⟨"/a.dart", "file:///a.dart"⟩, ⟨"/c.dart", "file:///c.dart"⟩] ∧
      run.events.filter Event.isBoundary = [.start 3, .finish true 2] := by
  intro run
  have hopened : run.state.calls.filterMap Call.opened? =
      [⟨"/a.dart", "file:///a.dart"⟩, ⟨"/c.dart", "file:///c.dart"⟩] := by decide +kernel
  obtain ⟨records, unstarted, -, -, hboundary, -, -, hfold, hclosed⟩ :=
    scan_brackets {} "/" (table troubledAnswers true) (some 9) troubledFiles {}
  have hcancelled : run.outcome.cancelled = true := by decide +kernel
  have hfound : run.outcome.findings.length = 2 := by decide +kernel
  change run.events.filter Event.isBoundary =
    [.start 3, .finish run.outcome.cancelled run.outcome.findings.length] at hboundary
  rw [hcancelled, hfound] at hboundary
  exact ⟨hfold, hclosed.symm.trans hopened, hboundary⟩

end DeadSymbols
