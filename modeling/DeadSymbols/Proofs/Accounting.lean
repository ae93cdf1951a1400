import DeadSymbols.Proofs.Endings

/-!
# Every file is accounted for

What a scan says about its files follows from the calls about each file and their answers.

* `Call.skips`, `Call.fails?`: the answers because of which a file is skipped or fails.
* `FileEnds.skips_iff`, `FileEnds.fails`: a file has such an answer just when it ended so.
* `scan_forgiving`: whether a close fails makes no difference.
* `scan_accounts`: the counts, the progress and the notices of a scan.
-/

namespace DeadSymbols

variable {config : Config} {σ : Type}

/-! ## Answers that end the scan of a file -/

namespace Call

/-- Whether a file is skipped because of the answer to a call: it cannot be loaded, or it has no
outline. -/
def skips : Call → Bool
  | .openDocument _ (.error fault) => fault.isLoadFailure
  | .documentSymbols _ (.ok none) => true
  | _ => false

/-- The fault in the answer to a call because of which the scan of a file fails, if it is such a
call. -/
def fails? : Call → Option Fault
  | .openDocument _ (.error fault) => if fault.isLoadFailure then none else some fault
  | .documentSymbols _ (.error fault) => some fault
  | .references _ _ (.error fault) => some fault
  | _ => none

end Call

theorem answered_skips (config : Config) (document : Document) (stack : List Symbol)
    (counts : List (Option Nat)) :
    (config.answered document stack counts).any Call.skips = false := by
  rw [Config.answered, List.any_map, List.any_eq_false]
  exact fun p _ => by simp [Call.skips]

theorem answered_fails (config : Config) (document : Document) (stack : List Symbol)
    (counts : List (Option Nat)) :
    (config.answered document stack counts).findSome? Call.fails? = none := by
  rw [List.findSome?_eq_none_iff]
  intro call hcall
  obtain ⟨p, -, rfl⟩ := List.mem_map.1 hcall
  rfl

/-- A walk has no answer because of which its file is skipped, and a failing one just if it fails
for it. -/
theorem WalkEnds.answers {document : Document} {stack : List Symbol} {calls : List Call}
    {status : Except Fault FileStatus} (h : WalkEnds config document stack calls status) :
    calls.any Call.skips = false ∧ calls.findSome? Call.fails? = faultOf? status ∧
      status ≠ .ok .skipped := by
  cases h with
  | scanned counts hall => exact ⟨answered_skips .., answered_fails .., by simp⟩
  | failed before asked after counts fault hqueried hcounts =>
    refine ⟨?_, ?_, by simp⟩
    · rw [List.any_append, answered_skips]
      rfl
    · rw [List.findSome?_append, answered_fails]
      rfl
  | interrupted seen next rest counts hreached hcounts =>
    exact ⟨answered_skips .., answered_fails .., by simp⟩

namespace FileEnds

variable {path : String} {calls : List Call} {status : Except Fault FileStatus}

/-- A file is skipped just if it could not be loaded or has no outline. -/
theorem skips_iff (h : FileEnds config path calls status) :
    calls.any Call.skips = true ↔ status = .ok .skipped := by
  cases h with
  | unloaded fault hload => simp [Call.skips, hload]
  | unopened fault hload => simp [Call.skips, hload]
  | unlisted document closed => simp [Call.skips]
  | refused document fault closed => simp [Call.skips]
  | walked document outline queries status hwalk closed =>
    obtain ⟨hskips, -, hstatus⟩ := hwalk.answers
    simp [Call.skips, hskips, hstatus]

/-- The scan of a file fails with the fault in the answer that fails it. -/
theorem fails (h : FileEnds config path calls status) :
    calls.findSome? Call.fails? = faultOf? status := by
  cases h with
  | unloaded fault hload => simp [Call.fails?, hload, faultOf?]
  | unopened fault hload => simp [Call.fails?, hload, faultOf?]
  | unlisted document closed => rfl
  | refused document fault closed => rfl
  | walked document outline queries status hwalk closed =>
    obtain ⟨-, hfails, -⟩ := hwalk.answers
    simp only [List.findSome?_cons, List.findSome?_append, hfails, Call.fails?]
    cases status <;> rfl

end FileEnds

/-! ## Closes that fail -/

/-- The same service, but that no close fails. -/
def Service.forgiving (service : Service σ) : Service σ :=
  { service with
    closeDocument := service.closeDocument.map fun close document state =>
      (.ok (), (close document state).2) }

@[simp] theorem Service.cancelled_forgiving (service : Service σ) :
    service.forgiving.cancelled = service.cancelled := rfl

section Forgiving

variable (config) (service : Service σ)

theorem walk_forgiving (document : Document) (stack : List Symbol) (state : σ) :
    walk config service.forgiving document stack state =
      walk config service document stack state := by
  have hgoes : ∀ {state : σ}, ¬ service.cancelled state = true →
      service.forgiving.cancelled state = false := fun hc => by simpa using hc
  fun_induction walk config service document stack state with
  | case1 state => rw [walk]
  | case2 symbol stack state hc => exact walk_stop hc
  | case3 symbol stack state hc hv ih => rw [walk_skip (hgoes hc) hv, ih]
  | case4 symbol stack state hc hv ih => rw [walk_descend (hgoes hc) hv, ih]
  | case5 symbol stack state hc hv asked fault after ha => exact walk_fault (hgoes hc) hv ha
  | case6 symbol stack state hc hv asked count after ha ih =>
    have hanswer : service.forgiving.references document symbol.anchor state =
        (.ok count, after) := ha
    rw [walk_count (hgoes hc) hv hanswer, ih]

theorem scanFile_forgiving (path : String) (state : σ) :
    scanFile config service.forgiving path state = scanFile config service path state := by
  have hwalk : ∀ document opened, walkDocument config service.forgiving document opened =
      walkDocument config service document opened := by
    intro document opened
    unfold walkDocument
    simp only [walk_forgiving]
    rfl
  -- of a close only the state after it counts
  have hclose : ∀ document (scan : FileScan σ),
      scan.close service.forgiving document = scan.close service document := by
    intro document scan
    unfold FileScan.close Service.forgiving
    cases service.closeDocument <;> rfl
  unfold scanFile
  simp only [hwalk, hclose]
  rfl

/-- **Whether a close fails makes no difference** to a scan. -/
theorem scan_forgiving (base : String) (files : List SourceFile) (state : σ) :
    scan config base service.forgiving files state = scan config base service files state := by
  have hfiles : ∀ total index state, scanFiles config base service.forgiving total index files state =
      scanFiles config base service total index files state := by
    intro total
    induction files with
    | nil => exact fun _ _ => rfl
    | cons file rest ih =>
      intro index state
      simp only [scanFiles, scanFile_forgiving, ih, Service.cancelled_forgiving]
  simp only [scan, hfiles, Service.cancelled_forgiving]

end Forgiving

/-! ## Whole scans -/

/-- Whether a file is announced. -/
def Event.isAdvance : Event → Bool
  | .advance _ _ => true
  | _ => false

theorem countP_isAdvance (base : String) (total : Nat) (records : List FileRecord) :
    ∀ index, ((records.zipIdx index).flatMap fun p => p.1.events base total p.2).countP
      Event.isAdvance = records.length := by
  induction records with
  | nil => exact fun _ => rfl
  | cons r rest ih =>
    intro index
    -- no call announces a file
    have hcalls : (r.calls.map Call.event).countP Event.isAdvance = 0 := by
      rw [List.countP_eq_zero]
      intro event hevent
      obtain ⟨call, -, rfl⟩ := List.mem_map.1 hevent
      cases call <;> simp [Call.event, Event.isAdvance]
    rw [List.zipIdx_cons, List.flatMap_cons, List.countP_append, ih, FileRecord.events,
      List.countP_cons_of_pos rfl, hcalls, List.length_cons, Nat.zero_add, Nat.add_comm]

namespace Covers

variable {base : String} {service : Service σ} {stopAt : Option Nat} {total index : Nat}
  {files unstarted : List SourceFile} {w : Watch σ} {records : List FileRecord}
  {run : ScanRun (Watch σ)}

/-- The files that are skipped, and likewise those that fail and the notices about them, can be
told by the answers to the calls. -/
theorem skipped_eq
    (h : Covers config base service stopAt total index files w records unstarted run) :
    run.outcome.filesSkipped = records.countP fun r => r.calls.any Call.skips := by
  rw [h.skipped]
  refine List.countP_congr fun r hr => ?_
  rw [FileRecord.hasEnded_iff, (h.ends r hr).skips_iff]

theorem failed_eq
    (h : Covers config base service stopAt total index files w records unstarted run) :
    run.outcome.filesFailed = records.countP fun r => (r.calls.findSome? Call.fails?).isSome := by
  rw [h.failed]
  refine List.countP_congr fun r hr => ?_
  rw [(h.ends r hr).fails, FileRecord.hasFailed]

theorem notices_eq
    (h : Covers config base service stopAt total index files w records unstarted run) :
    run.notices = records.filterMap fun r =>
      (r.calls.findSome? Call.fails?).map (.failedFile (r.file.relativeTo base)) := by
  have hfaults : records.map (fun r => (faultOf? r.status).map
        (Notice.failedFile (r.file.relativeTo base))) =
      records.map fun r => (r.calls.findSome? Call.fails?).map
        (.failedFile (r.file.relativeTo base)) :=
    List.map_congr_left fun r hr => by rw [(h.ends r hr).fails]
  have hkept := congrArg (List.filterMap id) hfaults
  rw [List.filterMap_map, List.filterMap_map] at hkept
  rw [h.notices]
  exact hkept

end Covers

/-- **Every file is accounted for.** Let the user ask to stop during any call of a scan, before it
or never. The files that are announced are the first ones of the list, each begun once, and each
of them ends in one of the ways of `FileEnds`. All of them are counted, but for the last one if the
user asked to stop while it was walked: skipped if the file could not be loaded or has no outline,
failed if another call but the close failed, and scanned otherwise. There is one notice for each
file that failed, in the order of the files. If a file is not counted, the scan was cancelled; a
scan that nobody stops counts all. Whether a close fails makes no difference. -/
theorem scan_accounts (config : Config) (base : String) (service : Service σ)
    (stopAt : Option Nat) (files : List SourceFile) (state : σ) :
    let run := scan config base (service.watched stopAt) files ⟨state, []⟩
    let outcome := run.outcome
    let counted := outcome.filesScanned + outcome.filesSkipped + outcome.filesFailed
    let announced := run.events.countP Event.isAdvance
    (∃ (records : List FileRecord) (unstarted : List SourceFile),
      files = records.map FileRecord.file ++ unstarted ∧
      run.state.calls = records.flatMap FileRecord.calls ∧
      (∀ r ∈ records, FileEnds config r.file.path r.calls r.status) ∧
      announced = records.length ∧ unstarted.length = outcome.filesTotal - announced ∧
      announced =
        counted + (if records.getLast?.any (FileRecord.hasEnded .interrupted) then 1 else 0) ∧
      outcome.filesScanned = records.countP (FileRecord.hasEnded .scanned) ∧
      outcome.filesSkipped = records.countP (fun r => r.calls.any Call.skips) ∧
      outcome.filesFailed = records.countP (fun r => (r.calls.findSome? Call.fails?).isSome) ∧
      run.notices = (records.filterMap fun r =>
          (r.calls.findSome? Call.fails?).map (.failedFile (r.file.relativeTo base))) ++
        [.scanned outcome.filesScanned files.length outcome.findings.length]) ∧
      outcome.filesTotal = files.length ∧ counted ≤ outcome.filesTotal ∧
      outcome.cancelled = stopAt.any (· ≤ run.state.calls.length) ∧
      (counted < outcome.filesTotal → outcome.cancelled = true) ∧
      (stopAt = none → counted = outcome.filesTotal ∧ outcome.cancelled = false) ∧
      scan config base (service.watched stopAt).forgiving files ⟨state, []⟩ = run := by
  intro run outcome counted announced
  obtain ⟨records, unstarted, h⟩ :=
    scanFiles_covers config base service stopAt files.length files 1 ⟨state, []⟩
  have hannounced : announced = records.length := by
    show (Event.start _ :: _ ++ [Event.finish _ _]).countP Event.isAdvance = _
    rw [h.events, List.countP_append, List.countP_cons, countP_isAdvance]
    rfl
  have hcounted : announced =
      counted + if records.getLast?.any (FileRecord.hasEnded .interrupted) then 1 else 0 := by
    have hscanned : outcome.filesScanned = _ := h.scanned
    have hskipped : outcome.filesSkipped = _ := h.skipped
    have hfailed : outcome.filesFailed = _ := h.failed
    rw [hannounced, FileRecord.length_eq, FileRecord.countP_interrupted h.finished, ← hscanned,
      ← hskipped, ← hfailed]
  have hlength : files.length = records.length + unstarted.length := by
    rw [h.files, List.length_append, List.length_map]
  have htotal : outcome.filesTotal = files.length := rfl
  -- a file that is not counted was interrupted or not begun
  have hcancelled : counted < outcome.filesTotal → outcome.cancelled = true := by
    intro hless
    refine h.stopped ?_
    by_cases hlast : records.getLast?.any (FileRecord.hasEnded .interrupted) = true
    · obtain ⟨r, hr, hended⟩ := (Option.any_eq_true _ _).1 hlast
      exact .inl (List.any_eq_true.2 ⟨r, List.mem_of_getLast? hr, hended⟩)
    · rw [if_neg hlast] at hcounted
      refine .inr fun hnone => ?_
      rw [hnone, List.length_nil] at hlength
      omega
  refine ⟨⟨records, unstarted, h.files, h.calls, h.ends, hannounced, by omega, hcounted, h.scanned,
    h.skipped_eq, h.failed_eq, ?_⟩, rfl, by omega, rfl, hcancelled, fun hnever => ?_,
    scan_forgiving config _ base files _⟩
  · exact congrArg (· ++ _) h.notices_eq
  · have hfalse : outcome.cancelled = false := by
      subst hnever
      rfl
    refine ⟨?_, hfalse⟩
    rcases Nat.lt_or_ge counted outcome.filesTotal with hless | hall
    · rw [hcancelled hless] at hfalse
      cases hfalse
    · omega

/-- The user asks to stop during the first query about the third file. The first file failed, the
second one was skipped, and the third one was announced but is not counted. -/
theorem scan_accounts_troubled :
    let run := troubledScan (some 9)
    run.events.countP Event.isAdvance = 3 ∧ run.outcome.filesScanned = 0 ∧
      run.outcome.filesSkipped = 1 ∧ run.outcome.filesFailed = 1 ∧ run.outcome.cancelled = true ∧
      ∃ records : List FileRecord, troubledFiles = records.map FileRecord.file ∧
        records.countP (fun r => r.calls.any Call.skips) = 1 ∧
        records.countP (fun r => (r.calls.findSome? Call.fails?).isSome) = 1 ∧
        records.getLast?.any (FileRecord.hasEnded .interrupted) = true := by
  intro run
  have hannounced : run.events.countP Event.isAdvance = 3 := by decide +kernel
  have hscanned : run.outcome.filesScanned = 0 := by decide +kernel
  have hskipped : run.outcome.filesSkipped = 1 := by decide +kernel
  have hfailed : run.outcome.filesFailed = 1 := by decide +kernel
  obtain ⟨⟨records, unstarted, hfiles, -, -, -, hunstarted, hcounted, -, hskips, hfails, -⟩, -, -, -,
    hcancelled, -⟩ := scan_accounts {} "/" (table troubledAnswers true) (some 9) troubledFiles {}
  change unstarted.length = 3 - run.events.countP Event.isAdvance at hunstarted
  change run.events.countP Event.isAdvance =
    run.outcome.filesScanned + run.outcome.filesSkipped + run.outcome.filesFailed + _ at hcounted
  rw [hannounced] at hunstarted hcounted
  rw [hscanned, hskipped, hfailed] at hcounted
  rw [List.eq_nil_of_length_eq_zero hunstarted, List.append_nil] at hfiles
  have hless : run.outcome.filesScanned + run.outcome.filesSkipped + run.outcome.filesFailed < 3 := by
    rw [hscanned, hskipped, hfailed]
    decide
  refine ⟨hannounced, hscanned, hskipped, hfailed, hcancelled hless, records, hfiles,
    hskips.symm.trans hskipped, hfails.symm.trans hfailed, ?_⟩
  refine Classical.byContradiction fun hended => ?_
  rw [if_neg hended] at hcounted
  cases hcounted

end DeadSymbols
