import DeadSymbols.Proofs.Bracketing
import DeadSymbols.Proofs.Replay

/-!
# Scans over services that break down

A service may get into states in which it answers no query any more. A scan goes on all the same:
it opens the files that are left, and fails for each of them that can be loaded.

* `Service.Outage`: the states in which a service is out of order.
* `Service.Outage.fileEnds`: the scan of a file in such a state.
* `GivesUp`: what a scan says after a call that failed.
* `Service.Outage.givesUp`: what a scan says after a call that broke its service.
-/

namespace DeadSymbols

variable {config : Config} {σ : Type}

/-- The fault in the answer to a call. -/
def Call.fault? : Call → Option Fault
  | .openDocument _ (.error fault) => some fault
  | .documentSymbols _ (.error fault) => some fault
  | .references _ _ (.error fault) => some fault
  | .closeDocument _ (.error fault) => some fault
  | _ => none

/-! ## Calls after a call that failed -/

theorem answered_fault (config : Config) (document : Document) (stack : List Symbol)
    (counts : List (Option Nat)) :
    ∀ call ∈ config.answered document stack counts, call.fault? = none := by
  intro call hcall
  obtain ⟨p, -, rfl⟩ := List.mem_map.1 hcall
  rfl

/-- A walk ends with the first query that fails. -/
theorem WalkEnds.pairwise {document : Document} {stack : List Symbol} {calls : List Call}
    {status : Except Fault FileStatus} (h : WalkEnds config document stack calls status) :
    calls.Pairwise fun call _ => call.fault? = none := by
  have hanswered : ∀ counts, (config.answered document stack counts).Pairwise
      fun call _ => call.fault? = none :=
    fun counts => List.pairwise_iff_forall_sublist.2 fun hsub =>
      answered_fault config document stack counts _ (hsub.subset List.mem_cons_self)
  cases h with
  | scanned counts hall => exact hanswered counts
  | failed before asked after counts fault hqueried hcounts =>
    exact List.pairwise_append.2 ⟨hanswered counts, List.pairwise_singleton _ _,
      fun call hcall _ _ => answered_fault config document stack counts call hcall⟩
  | interrupted seen next rest counts hreached hcounts => exact hanswered counts

/-- After a call that failed the scan of a file makes no call but one that releases the
document. -/
theorem FileEnds.pairwise {path : String} {calls : List Call} {status : Except Fault FileStatus}
    (h : FileEnds config path calls status) :
    calls.Pairwise fun call later => call.fault? = none ∨ later.closed?.isSome = true := by
  cases h with
  | unloaded fault hload => exact List.pairwise_singleton _ _
  | unopened fault hload => exact List.pairwise_singleton _ _
  | unlisted document closed => simp [Call.fault?]
  | refused document fault closed => simp [Call.fault?, Call.closed?]
  | walked document outline queries status hwalk closed =>
    refine List.pairwise_cons.2 ⟨fun _ _ => .inl rfl, List.pairwise_cons.2 ⟨fun _ _ => .inl rfl, ?_⟩⟩
    refine List.pairwise_append.2 ⟨hwalk.pairwise.imp fun h => .inl h, List.pairwise_singleton _ _, ?_⟩
    intro call _ last hlast
    rw [List.mem_singleton.1 hlast]
    exact .inr rfl

/-- What fails the scan of a file, if it is not the close. -/
theorem FileEnds.hasFailed {r : FileRecord} {made more : List Call} {call : Call} {fault : Fault}
    (h : FileEnds config r.file.path r.calls r.status) (hcalls : r.calls = made ++ call :: more)
    (hfails : call.fails? = some fault) : r.hasFailed = true := by
  rw [FileRecord.hasFailed, ← h.fails, hcalls, List.findSome?_append, List.findSome?_cons, hfails]
  cases made.findSome? Call.fails? <;> rfl

/-! ## Services that are out of order -/

variable {service : Service σ} {loadable : String → Bool} {lost : σ → Prop}

/-- A service never leaves the states that are `lost`, and gives no outline in them. It always
depends on the file alone whether it can be loaded. -/
structure Service.Outage (service : Service σ) (loadable : String → Bool) (lost : σ → Prop) :
    Prop where
  kept : ∀ {state} call, lost state → lost (service.after state call)
  outline : ∀ {state} document, lost state →
    ∃ fault, (service.documentSymbols document state).1 = .error fault
  loaded : ∀ {path state fault}, loadable path = true → lost state →
    (service.openDocument path state).1 = .error fault → fault.isLoadFailure = false
  unloaded : ∀ {path state}, loadable path = false → lost state →
    ∃ fault, (service.openDocument path state).1 = .error fault ∧ fault.isLoadFailure = true

/-- How a file ends that is scanned while the service is out of order. -/
def FileRecord.IsLost (loadable : String → Bool) (r : FileRecord) : Prop :=
  if loadable r.file.path then r.hasFailed = true else r.status = .ok .skipped

namespace Service.Outage

/-- **The scan of a file** while the service is out of order fails, if the file can be loaded, and
asks for no references. -/
theorem fileEnds (houtage : service.Outage loadable lost) {r : FileRecord} {state : σ}
    (hends : FileEnds config r.file.path r.calls r.status)
    (hanswers : service.Answers state r.calls) (hlost : lost state) :
    r.IsLost loadable ∧
      ∀ call ∈ r.calls, ∀ document place answer, call ≠ .references document place answer := by
  obtain ⟨file, calls, status⟩ := r
  change FileEnds config file.path calls status at hends
  change service.Answers state calls at hanswers
  unfold FileRecord.IsLost
  cases hload : loadable file.path with
  | false =>
    obtain ⟨fault, hopen, hfault⟩ := houtage.unloaded hload hlost
    cases hends with
    | unloaded fault' hload' => exact ⟨rfl, by simp⟩
    | unopened fault' hload' =>
      cases hopen.symm.trans hanswers.1
      rw [hfault] at hload'
      cases hload'
    | unlisted document closed => cases hopen.symm.trans hanswers.1
    | refused document fault' closed => cases hopen.symm.trans hanswers.1
    | walked document outline queries status hwalk closed => cases hopen.symm.trans hanswers.1
  | true =>
    cases hends with
    | unloaded fault hload' =>
      rw [houtage.loaded hload hlost hanswers.1] at hload'
      cases hload'
    | unopened fault hload' => exact ⟨rfl, by simp⟩
    | unlisted document closed =>
      obtain ⟨fault, hlisted⟩ := houtage.outline document
        (houtage.kept (.openDocument file.path (.ok document)) hlost)
      cases hlisted.symm.trans hanswers.2.1
    | refused document fault closed => exact ⟨rfl, by simp⟩
    | walked document outline queries status hwalk closed =>
      obtain ⟨fault, hlisted⟩ := houtage.outline document
        (houtage.kept (.openDocument file.path (.ok document)) hlost)
      cases hlisted.symm.trans hanswers.2.1

/-- The scans of files, one after another. -/
theorem records (houtage : service.Outage loadable lost) {records : List FileRecord} :
    ∀ {state : σ}, (∀ r ∈ records, FileEnds config r.file.path r.calls r.status) →
      service.Answers state (records.flatMap FileRecord.calls) → lost state →
      ∀ r ∈ records, r.IsLost loadable ∧
        ∀ call ∈ r.calls, ∀ document place answer, call ≠ .references document place answer := by
  induction records with
  | nil => exact fun _ _ _ r hr => absurd hr List.not_mem_nil
  | cons r rest ih =>
    intro state hends hanswers hlost
    rw [List.forall_mem_cons] at hends ⊢
    rw [List.flatMap_cons, Service.answers_append] at hanswers
    refine ⟨houtage.fileEnds hends.1 hanswers.1 hlost, ih hends.2 hanswers.2 ?_⟩
    exact Service.replay_keeps (fun call _ h => houtage.kept call h) r.calls hlost

end Service.Outage

/-! ## Whole scans -/

/-- What a scan says after `call` failed, which came after the calls `made` about the file of
`r`: nothing more is found, and the file fails unless it was being released. Each file after it
fails, too, unless it cannot be loaded. -/
structure GivesUp (config : Config) (loadable : String → Bool) (findings : List Finding)
    (done : List FileRecord) (r : FileRecord) (rest : List FileRecord) (made : List Call)
    (call : Call) : Prop where
  findings : findings = config.justified [] (done.flatMap FileRecord.calls ++ made)
  status : match call with
    | .closeDocument document _ => ∀ closed,
      FileEnds config r.file.path (made ++ [.closeDocument document closed]) r.status
    | _ => r.hasFailed = true
  later : ∀ r' ∈ rest, r'.IsLost loadable

/-- A close is the last call about a file. -/
theorem FileEnds.eq_nil_of_close {path : String} {made more : List Call} {document : Document}
    {answer : Except Fault Unit} {status : Except Fault FileStatus}
    (h : FileEnds config path (made ++ .closeDocument document answer :: more) status) :
    more = [] := by
  have hpairwise : (made ++ .closeDocument document answer :: more).Pairwise
      fun call _ => call.closed? = none := by
    generalize made ++ .closeDocument document answer :: more = calls at h
    cases h with
    | unloaded fault hload => exact List.pairwise_singleton _ _
    | unopened fault hload => exact List.pairwise_singleton _ _
    | unlisted document closed => simp [Call.closed?]
    | refused document fault closed => simp [Call.closed?]
    | walked document outline queries status hwalk closed =>
      refine List.pairwise_cons.2 ⟨fun _ _ => rfl, List.pairwise_cons.2 ⟨fun _ _ => rfl, ?_⟩⟩
      have hqueries : ∀ call ∈ queries, call.closed? = none := by
        intro call hcall
        obtain ⟨place, answer, rfl⟩ := hwalk.queries call hcall
        rfl
      refine List.pairwise_append.2 ⟨?_, List.pairwise_singleton _ _, fun call hcall _ _ =>
        hqueries call hcall⟩
      exact List.pairwise_iff_forall_sublist.2 fun hsub =>
        hqueries _ (hsub.subset List.mem_cons_self)
  have hnone := (List.pairwise_cons.1 (List.pairwise_append.1 hpairwise).2.1).1
  cases more with
  | nil => rfl
  | cons call rest => cases hnone call List.mem_cons_self

/-- Whatever the answer to a close is, the file ends in the same way. -/
theorem FileEnds.of_close {path : String} {made : List Call} {document : Document}
    {answer : Except Fault Unit} {status : Except Fault FileStatus}
    (h : FileEnds config path (made ++ [.closeDocument document answer]) status)
    (closed : Except Fault Unit) :
    FileEnds config path (made ++ [.closeDocument document closed]) status := by
  -- the last calls are the same, and so are those before them
  have hsplit : ∀ {before : List Call} {last : Call},
      made ++ [.closeDocument document answer] = before ++ [last] →
        made = before ∧ .closeDocument document answer = last := by
    intro before last heq
    obtain ⟨hmade, hlast⟩ := List.append_inj' heq rfl
    exact ⟨hmade, List.singleton_inj.1 hlast⟩
  generalize hcalls : made ++ [.closeDocument document answer] = calls at h hsplit
  cases h with
  | unloaded fault hload =>
    obtain ⟨-, hlast⟩ := hsplit (List.nil_append _).symm
    cases hlast
  | unopened fault hload =>
    obtain ⟨-, hlast⟩ := hsplit (List.nil_append _).symm
    cases hlast
  | unlisted document' closed' =>
    obtain ⟨rfl, hlast⟩ := hsplit (show _ = [_, _] ++ [_] from rfl)
    cases hlast
    exact .unlisted document closed
  | refused document' fault closed' =>
    obtain ⟨rfl, hlast⟩ := hsplit (show _ = [_, _] ++ [_] from rfl)
    cases hlast
    exact .refused document fault closed
  | walked document' outline queries status hwalk closed' =>
    obtain ⟨rfl, hlast⟩ := hsplit (show _ = (_ :: _ :: queries) ++ [_] from rfl)
    cases hlast
    exact .walked document outline queries status hwalk closed

/-- A call that failed justifies no finding. -/
theorem Config.justifiedBy_of_fault {call : Call} (h : call.fault?.isSome = true)
    (pending : List Symbol) : config.justifiedBy pending call = [] := by
  cases call with
  | references document place answer =>
    cases answer with
    | error fault => rfl
    | ok count => cases h
  | _ => rfl

/-- After a call that failed there is no query about the same file. -/
theorem FileEnds.no_references_later {path : String} {made more : List Call} {call : Call}
    {status : Except Fault FileStatus} (h : FileEnds config path (made ++ call :: more) status)
    (hsome : call.fault?.isSome = true) :
    ∀ later ∈ more, ∀ document place answer, later ≠ .references document place answer := by
  rintro later hlater document place answer rfl
  have hfirst := (List.pairwise_cons.1 (List.pairwise_append.1 h.pairwise).2.1).1 _ hlater
  obtain ⟨fault, hfault⟩ := Option.isSome_iff_exists.1 hsome
  rw [hfault] at hfirst
  rcases hfirst with h | h <;> cases h

/-- How the file ends about which a call failed: it fails, unless the call was to release it. -/
theorem FileEnds.status_of_fault {r : FileRecord} {made more : List Call} {call : Call}
    (h : FileEnds config r.file.path r.calls r.status) (hcalls : r.calls = made ++ call :: more)
    (hsome : call.fault?.isSome = true) (hload : call.skips = false) :
    match (motive := Call → Prop) call with
    | .closeDocument document _ => ∀ closed,
      FileEnds config r.file.path (made ++ [.closeDocument document closed]) r.status
    | _ => r.hasFailed = true := by
  cases call with
  | closeDocument document answer =>
    rw [hcalls] at h
    obtain rfl := h.eq_nil_of_close
    exact h.of_close
  | openDocument path answer =>
    cases answer with
    | ok document => cases hsome
    | error fault =>
      have hload' : fault.isLoadFailure = false := hload
      exact h.hasFailed hcalls (by rw [Call.fails?, hload']; rfl)
  | documentSymbols document answer =>
    cases answer with
    | ok outline => cases hsome
    | error fault => exact h.hasFailed hcalls rfl
  | references document place answer =>
    cases answer with
    | ok count => cases hsome
    | error fault => exact h.hasFailed hcalls rfl

namespace Service.Outage

/-- **A scan gives up** when a call breaks its service. -/
theorem givesUp (houtage : service.Outage loadable lost)
    (hnever : ∀ state, service.cancelled state = false) (config : Config) (base : String)
    (files : List SourceFile) (state : σ) :
    let run := scan config base (service.watched none) files ⟨state, []⟩
    let outcome := (scan config base service files state).outcome
    ∃ records : List FileRecord, files = records.map FileRecord.file ∧
      run.state.calls = records.flatMap FileRecord.calls ∧
      (∀ r ∈ records, FileEnds config r.file.path r.calls r.status) ∧
      outcome.filesScanned = records.countP (FileRecord.hasEnded .scanned) ∧
      outcome.filesSkipped = records.countP (FileRecord.hasEnded .skipped) ∧
      outcome.filesFailed = records.countP FileRecord.hasFailed ∧
      ∀ done r rest made call more, records = done ++ r :: rest →
        r.calls = made ++ call :: more → call.fault?.isSome = true → call.skips = false →
        lost (service.replay state (done.flatMap FileRecord.calls ++ made ++ [call])) →
        GivesUp config loadable outcome.findings done r rest made call := by
  intro run outcome
  obtain ⟨records, unstarted, hcovers⟩ :=
    scanFiles_covers config base service none files.length files 1 ⟨state, []⟩
  have hplain : outcome = run.outcome :=
    (scan_watched config hnever base files state).1
  have hcalls : run.state.calls = records.flatMap FileRecord.calls := hcovers.calls
  obtain ⟨hanswers, -⟩ := scan_answers config service none base files state
  obtain ⟨new, hnew, hfound⟩ :=
    scanFiles_calls config service none base files.length files 1 ⟨state, []⟩
  have hfound' : outcome.findings = config.justified [] (records.flatMap FileRecord.calls) := by
    rw [hplain, ← hcalls]
    exact hfound.trans (congrArg (config.justified []) (hnew.trans (List.nil_append new)).symm)
  refine ⟨records, ?_, hcalls, hcovers.ends, ?_, ?_, ?_, ?_⟩
  · rw [hcovers.files, hcovers.unstarted_eq_nil, List.append_nil]
  · rw [hplain]; exact hcovers.scanned
  · rw [hplain]; exact hcovers.skipped
  · rw [hplain]; exact hcovers.failed
  intro done r rest made call more hrecords hr hsome hload hlost
  have hends : FileEnds config r.file.path r.calls r.status :=
    hcovers.ends r (by rw [hrecords]; simp)
  have hrest : ∀ r' ∈ rest, FileEnds config r'.file.path r'.calls r'.status :=
    fun r' hr' => hcovers.ends r' (by rw [hrecords]; simp [hr'])
  -- the calls up to the one that failed, the rest about the same file, and those about the others
  have hsplit : records.flatMap FileRecord.calls = (done.flatMap FileRecord.calls ++ made) ++
      (call :: (more ++ rest.flatMap FileRecord.calls)) := by
    rw [hrecords, List.flatMap_append, List.flatMap_cons, hr]
    simp
  have hsteps : records.flatMap FileRecord.calls =
      (done.flatMap FileRecord.calls ++ made ++ [call]) ++
        (more ++ rest.flatMap FileRecord.calls) := by
    rw [hsplit]
    simp
  rw [show (scan config base (service.watched none) files ⟨state, []⟩).state.calls = _ from hcalls,
    hsteps, Service.answers_append] at hanswers
  have hmore : lost (service.replay (service.replay state
      (done.flatMap FileRecord.calls ++ made ++ [call])) more) :=
    Service.replay_keeps (fun call _ h => houtage.kept call h) more hlost
  have hlater := houtage.records hrest (Service.answers_append.1 hanswers.2).2 hmore
  -- nobody asks for references any more
  have hqueries : ∀ later ∈ more ++ rest.flatMap FileRecord.calls,
      ∀ document place answer, later ≠ .references document place answer := by
    refine List.forall_mem_append.2 ⟨(hr ▸ hends).no_references_later hsome, fun later hmem => ?_⟩
    obtain ⟨r', hr', hcall⟩ := List.mem_flatMap.1 hmem
    exact (hlater r' hr').2 later hcall
  refine ⟨?_, hends.status_of_fault hr hsome hload, fun r' hr' => (hlater r' hr').1⟩
  rw [hfound', hsplit, Config.justified_append, Config.justified,
    Config.justifiedBy_of_fault hsome, Config.justified_eq_nil hqueries, List.append_nil,
    List.append_nil]

end Service.Outage

end DeadSymbols
