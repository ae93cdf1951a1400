import DeadSymbols.Proofs.Bracketing

/-!
# Thresholds only filter

A symbol is reported if it has at most so many references. How many has no part in what a scan asks
and in how its files end, but only in what it finds.

* `Config.withThreshold`: the same settings with another threshold.
* `Config.counted`: the symbols whose references were counted, with their counts.
* `justified_eq_filter`: calls justify the findings whose count is within the threshold.
* `scanFiles_withThreshold`: without its findings a scan is the same with any threshold.
* `scan_threshold`: the findings with a lower threshold are some of those with a higher one.
-/

namespace DeadSymbols

variable {config : Config} {σ : Type}

/-- The same settings, but that symbols with up to `limit` references are reported. -/
def Config.withThreshold (config : Config) (limit : Nat) : Config :=
  { config with scan := { config.scan with maxReferences := limit } }

/-! ## Counts in answers -/

namespace Call

/-- The count in the answer to a query for references, if there is one. No answer counts as zero. -/
def count? : Call → Option Nat
  | .references _ _ (.ok count) => some (count.getD 0)
  | _ => none

/-- The first symbol that is still to be asked about, as a finding and with the count in the answer
to a call, if the call is a query about it that is answered. -/
def counted (pending : List Symbol) : Call → List (Finding × Nat)
  | .references document _ (.ok count) =>
    pending.head?.toList.map fun symbol => (.ofSymbol symbol document.path, count.getD 0)
  | _ => []

end Call

namespace Config

/-- The symbols whose references were counted by some calls, as findings and with the counts, if
`pending` are the symbols still to be asked about. -/
def counted (config : Config) (pending : List Symbol) : List Call → List (Finding × Nat)
  | [] => []
  | call :: calls => call.counted pending ++ config.counted (config.pendingAfter pending call) calls

theorem counted_append (pending : List Symbol) (xs ys : List Call) :
    config.counted pending (xs ++ ys) =
      config.counted pending xs ++ config.counted (xs.foldl config.pendingAfter pending) ys := by
  induction xs generalizing pending with
  | nil => rfl
  | cons x xs ih => simp only [List.cons_append, counted, ih, List.foldl_cons, List.append_assoc]

/-- The findings whose count is within a threshold. -/
def within (limit : Nat) (counted : List (Finding × Nat)) : List Finding :=
  (counted.filter fun p => p.2 ≤ limit).map Prod.fst

theorem within_append (limit : Nat) (xs ys : List (Finding × Nat)) :
    within limit (xs ++ ys) = within limit xs ++ within limit ys := by
  rw [within, List.filter_append, List.map_append]
  rfl

theorem justifiedBy_eq (pending : List Symbol) (call : Call) :
    config.justifiedBy pending call = within config.scan.maxReferences (call.counted pending) := by
  cases call with
  | references document place answer =>
    rcases answer with fault | count
    · rfl
    · cases hfirst : pending.head? with
      | none => simp [justifiedBy, Call.counted, within, hfirst]
      | some symbol =>
        by_cases hcount : count.getD 0 ≤ config.scan.maxReferences <;>
          simp [justifiedBy, Call.counted, within, hfirst, findings, isUnreferenced, hcount]
  | _ => rfl

/-- **Calls justify the findings whose count is within the threshold.** -/
theorem justified_eq_filter (pending : List Symbol) (calls : List Call) :
    config.justified pending calls =
      within config.scan.maxReferences (config.counted pending calls) := by
  induction calls generalizing pending with
  | nil => rfl
  | cons call calls ih => rw [justified, counted, within_append, justifiedBy_eq, ih]

/-- Which symbols are asked about does not depend on the threshold. -/
theorem counted_withThreshold (limit : Nat) (pending : List Symbol) (calls : List Call) :
    (config.withThreshold limit).counted pending calls = config.counted pending calls := by
  have hpending : ∀ call pending, (config.withThreshold limit).pendingAfter pending call =
      config.pendingAfter pending call := fun _ _ => rfl
  induction calls generalizing pending with
  | nil => rfl
  | cons call calls ih => rw [counted, counted, hpending, ih]

/-- Each answer to a query for references is counted as long as there are symbols to be asked
about. -/
theorem map_snd_counted {calls : List Call} :
    ∀ {pending : List Symbol},
      (∀ call ∈ calls, ∃ document place answer, call = .references document place answer) →
      calls.length ≤ pending.length →
      (config.counted pending calls).map Prod.snd = calls.filterMap Call.count? := by
  induction calls with
  | nil => exact fun _ _ => rfl
  | cons call rest ih =>
    intro pending hqueries hlength
    obtain ⟨⟨document, place, answer, rfl⟩, hrest⟩ := List.forall_mem_cons.1 hqueries
    cases pending with
    | nil => cases hlength
    | cons symbol pending =>
      have hmore : (config.counted pending rest).map Prod.snd = rest.filterMap Call.count? :=
        ih hrest (Nat.le_of_succ_le_succ hlength)
      -- the query is about the first symbol, and the others are left for the rest
      rw [counted, List.map_append, show config.pendingAfter _ _ = pending from rfl, hmore]
      cases answer <;> rfl

end Config

theorem length_answered (document : Document) (stack : List Symbol) (counts : List (Option Nat)) :
    (config.answered document stack counts).length =
      min (config.queried stack).length counts.length := by
  rw [Config.answered, List.length_map, List.length_zip]

/-- A walk makes one query at most for each symbol that is to be asked about. -/
theorem WalkEnds.length_le {document : Document} {stack : List Symbol} {calls : List Call}
    {status : Except Fault FileStatus} (h : WalkEnds config document stack calls status) :
    calls.length ≤ (config.queried stack).length := by
  cases h with
  | scanned counts hall =>
    rw [length_answered]
    exact Nat.min_le_left _ _
  | failed before asked after counts fault hqueried hcounts =>
    rw [List.length_append, length_answered, hqueried, hcounts]
    simp only [List.length_append, List.length_cons, List.length_nil]
    omega
  | interrupted seen next rest counts hreached hcounts =>
    rw [length_answered]
    exact Nat.min_le_left _ _

/-- Each answer to a query for references in the scan of a file is counted. -/
theorem FileEnds.map_snd_counted {path : String} {calls : List Call}
    {status : Except Fault FileStatus} (h : FileEnds config path calls status) :
    (config.counted [] calls).map Prod.snd = calls.filterMap Call.count? := by
  cases h with
  | walked document outline queries status hwalk closed =>
    have hqueries : ∀ call ∈ queries, ∃ document place answer,
        call = .references document place answer :=
      fun call hcall => ⟨document, hwalk.queries call hcall⟩
    have hcounted : (config.counted (config.queried outline) queries).map Prod.snd =
        queries.filterMap Call.count? :=
      Config.map_snd_counted hqueries hwalk.length_le
    rw [Config.counted, Config.counted, Config.counted_append, List.filterMap_cons,
      List.filterMap_cons, List.filterMap_append, ← hcounted, List.map_append, List.map_append,
      List.map_append]
    rfl
  | _ => rfl

/-- And so is each such answer in the scans of files one after another. -/
theorem map_snd_counted_records {records : List FileRecord}
    (h : ∀ r ∈ records, FileEnds config r.file.path r.calls r.status) :
    (config.counted [] (records.flatMap FileRecord.calls)).map Prod.snd =
      (records.flatMap FileRecord.calls).filterMap Call.count? := by
  induction records with
  | nil => rfl
  | cons r rest ih =>
    obtain ⟨hr, hrest⟩ := List.forall_mem_cons.1 h
    rw [List.flatMap_cons, Config.counted_append, hr.fileCalls.pendingAfter, List.map_append,
      hr.map_snd_counted, ih hrest, List.filterMap_append]

/-! ## Scans with another threshold -/

namespace FileScan

/-- The scan of a file without what it found. -/
def withoutFindings (scan : FileScan σ) : FileScan σ := { scan with findings := [] }

@[simp] theorem state_withoutFindings (scan : FileScan σ) :
    scan.withoutFindings.state = scan.state := rfl

theorem withoutFindings_after (scan : FileScan σ) (findings : List Finding) (events : List Event) :
    (scan.after findings events).withoutFindings = scan.withoutFindings.after [] events := rfl

/-- A document is closed in the same way whatever was found in it. -/
theorem withoutFindings_close (scan : FileScan σ) (service : Service σ) (document : Document) :
    (scan.close service document).withoutFindings =
      scan.withoutFindings.close service document := by
  unfold close
  cases service.closeDocument <;> rfl

end FileScan

namespace ScanRun

/-- A scan without what it found. -/
def withoutFindings (run : ScanRun σ) : ScanRun σ :=
  { run with outcome := { run.outcome with findings := [] } }

@[simp] theorem state_withoutFindings (run : ScanRun σ) :
    run.withoutFindings.state = run.state := rfl

theorem withoutFindings_after (run : ScanRun σ) (relative : String) (announced : Event)
    (file : FileScan σ) : (run.after relative announced file).withoutFindings =
      (run.withoutFindings.after relative announced file.withoutFindings).withoutFindings := by
  obtain ⟨status, findings, events, state⟩ := file
  rcases status with fault | _ | _ | _ <;> rfl

end ScanRun

section Scans

variable (config) (limit : Nat) (service : Service σ)

/-- **Walks** are the same with any threshold, but for what they find. -/
theorem walk_withThreshold (document : Document) (stack : List Symbol) (state : σ) :
    (walk (config.withThreshold limit) service document stack state).withoutFindings =
      (walk config service document stack state).withoutFindings := by
  have hvisit : ∀ symbol, (config.withThreshold limit).visit symbol = config.visit symbol :=
    fun _ => rfl
  have hgoes : ∀ {state : σ}, ¬ service.cancelled state = true → service.cancelled state = false :=
    fun hc => by simpa using hc
  fun_induction walk config service document stack state with
  | case1 state => rw [walk]
  | case2 symbol stack state hc => rw [walk_stop hc]
  | case3 symbol stack state hc hv ih => rw [walk_skip (hgoes hc) ((hvisit _).trans hv), ih]
  | case4 symbol stack state hc hv ih => rw [walk_descend (hgoes hc) ((hvisit _).trans hv), ih]
  | case5 symbol stack state hc hv asked fault after ha =>
    rw [walk_fault (hgoes hc) ((hvisit _).trans hv) ha]
  | case6 symbol stack state hc hv asked count after ha ih =>
    -- whether the symbol is a finding has no part in the rest of the walk
    rw [walk_count (hgoes hc) ((hvisit _).trans hv) ha, FileScan.withoutFindings_after, ih]
    rfl

theorem walkDocument_withThreshold (document : Document) (state : σ) :
    (walkDocument (config.withThreshold limit) service document state).withoutFindings =
      (walkDocument config service document state).withoutFindings := by
  rcases ha : service.documentSymbols document state with ⟨fault | none | outline, listed⟩
  · simp only [walkDocument, ha]
  · simp only [walkDocument, ha]
  · simp only [walkDocument, ha, FileScan.withoutFindings_after, walk_withThreshold]

theorem scanFile_withThreshold (path : String) (state : σ) :
    (scanFile (config.withThreshold limit) service path state).withoutFindings =
      (scanFile config service path state).withoutFindings := by
  rcases ha : service.openDocument path state with ⟨fault | document, opened⟩
  · simp only [scanFile, ha]
  · simp only [scanFile, ha, FileScan.withoutFindings_after, FileScan.withoutFindings_close,
      walkDocument_withThreshold]

/-- **Scans** are the same with any threshold, but for what they find. -/
theorem scanFiles_withThreshold (base : String) (total : Nat) (files : List SourceFile) :
    ∀ (index : Nat) (state : σ),
      (scanFiles (config.withThreshold limit) base service total index files
        state).withoutFindings =
        (scanFiles config base service total index files state).withoutFindings := by
  induction files with
  | nil => exact fun _ _ => rfl
  | cons file rest ih =>
    intro index state
    have hfile := scanFile_withThreshold config limit service file.path state
    have hstate : (scanFile (config.withThreshold limit) service file.path state).state =
        (scanFile config service file.path state).state := by
      simpa using congrArg FileScan.state hfile
    cases hc : service.cancelled state with
    | true => rw [scanFiles_stopped hc, scanFiles_stopped hc]
    | false =>
      rw [scanFiles_cons hc, scanFiles_cons hc, ScanRun.withoutFindings_after, hfile, hstate, ih,
        ← ScanRun.withoutFindings_after]

end Scans

/-! ## Findings with two thresholds -/

section Within

variable {limit limit' : Nat} (h : limit ≤ limit') (counted : List (Finding × Nat))

include h

theorem filter_filter_le : (counted.filter fun p => p.2 ≤ limit').filter (fun p => p.2 ≤ limit) =
    counted.filter fun p => p.2 ≤ limit := by
  rw [List.filter_filter]
  refine List.filter_congr fun p _ => ?_
  by_cases hp : p.2 ≤ limit
  · simp [hp, Nat.le_trans hp h]
  · simp [hp]

/-- What is within a threshold is within a higher one, in the same order. -/
theorem Config.within_sublist :
    (Config.within limit counted).Sublist (Config.within limit' counted) := by
  have hsub : ((counted.filter fun p => p.2 ≤ limit').filter fun p => p.2 ≤ limit).Sublist
      (counted.filter fun p => p.2 ≤ limit') := List.filter_sublist
  rw [filter_filter_le h] at hsub
  exact hsub.map Prod.fst

/-- What is within a higher threshold is within the lower one, or has a count between the two. -/
theorem Config.within_perm : (Config.within limit' counted).Perm (Config.within limit counted ++
    (counted.filter fun p => limit < p.2 ∧ p.2 ≤ limit').map Prod.fst) := by
  have hbetween : (counted.filter fun p => p.2 ≤ limit').filter (fun p => !decide (p.2 ≤ limit)) =
      counted.filter fun p => limit < p.2 ∧ p.2 ≤ limit' := by
    rw [List.filter_filter]
    refine List.filter_congr fun p _ => ?_
    by_cases hp : p.2 ≤ limit
    · simp [hp, Nat.not_lt.2 hp]
    · simp [hp, Nat.lt_of_not_le hp]
  have hsplit := List.filter_append_perm (fun p : Finding × Nat => decide (p.2 ≤ limit))
    (counted.filter fun p => p.2 ≤ limit')
  rw [filter_filter_le h, hbetween] at hsplit
  rw [Config.within, Config.within, ← List.map_append]
  exact (hsplit.map Prod.fst).symm

end Within

/-- **The threshold only filters.** Let any call of a scan fail, let the user ask to stop during any
call, and compare two thresholds. The calls with their answers are the same, and so are all events
and notices but the last ones, which say how many findings there are, the counts of files, and
whether the scan was cancelled. Each answer to a query for references is counted for one symbol, and
what is found are the symbols whose count is within the threshold. So the findings with the lower
threshold are a sublist of those with the higher one, which has besides them the symbols with a
count between the two. -/
theorem scan_threshold (config : Config) (base : String) (service : Service σ)
    (stopAt : Option Nat) (files : List SourceFile) (state : σ) {limit limit' : Nat}
    (h : limit ≤ limit') :
    let run limit :=
      scan (config.withThreshold limit) base (service.watched stopAt) files ⟨state, []⟩
    let calls := (run limit').state.calls
    let counted := config.counted [] calls
    (run limit).state = (run limit').state ∧
      (run limit).events.dropLast = (run limit').events.dropLast ∧
      (run limit).notices.dropLast = (run limit').notices.dropLast ∧
      { (run limit).outcome with findings := [] } = { (run limit').outcome with findings := [] } ∧
      counted.map Prod.snd = calls.filterMap Call.count? ∧
      (run limit).outcome.findings = (counted.filter fun p => p.2 ≤ limit).map Prod.fst ∧
      (run limit').outcome.findings = (counted.filter fun p => p.2 ≤ limit').map Prod.fst ∧
      (run limit).outcome.findings.Sublist (run limit').outcome.findings ∧
      (run limit').outcome.findings.Perm ((run limit).outcome.findings ++
        (counted.filter fun p => limit < p.2 ∧ p.2 ≤ limit').map Prod.fst) := by
  intro run calls counted
  have hsame : ∀ limit limit', (scanFiles (config.withThreshold limit) base
      (service.watched stopAt) files.length 1 files ⟨state, []⟩).withoutFindings =
        (scanFiles (config.withThreshold limit') base (service.watched stopAt) files.length 1 files
          ⟨state, []⟩).withoutFindings := fun limit limit' =>
    (scanFiles_withThreshold config limit _ base _ files 1 _).trans
      (scanFiles_withThreshold config limit' _ base _ files 1 _).symm
  have hstate : ∀ limit, (run limit).state = (run limit').state := by
    intro limit
    have hinner := congrArg ScanRun.state (hsame limit limit')
    rwa [ScanRun.state_withoutFindings, ScanRun.state_withoutFindings] at hinner
  -- what the calls justify with a threshold are the counts that are within it
  have hfound : ∀ limit, (run limit).outcome.findings = Config.within limit counted := by
    intro limit
    obtain ⟨new, hnew, hfindings⟩ := scanFiles_calls (config.withThreshold limit) service stopAt
      base files.length files 1 ⟨state, []⟩
    have hcalls : new = calls := by
      rw [List.nil_append] at hnew
      exact hnew.symm.trans (congrArg Watch.calls (hstate limit))
    rw [Config.justified_eq_filter, Config.counted_withThreshold, hcalls] at hfindings
    exact hfindings
  obtain ⟨records, unstarted, hcovers⟩ := scanFiles_covers (config.withThreshold limit') base
    service stopAt files.length files 1 ⟨state, []⟩
  have hcalls : calls = records.flatMap FileRecord.calls := hcovers.calls
  have hcounts : counted.map Prod.snd = calls.filterMap Call.count? := by
    have hrecords := map_snd_counted_records hcovers.ends
    rwa [Config.counted_withThreshold, ← hcalls] at hrecords
  have hinner := hsame limit limit'
  refine ⟨hstate limit, ?_, ?_, ?_, hcounts, hfound limit, hfound limit', ?_, ?_⟩
  · have hevents := congrArg ScanRun.events hinner
    simp only [run, scan, List.dropLast_concat]
    exact congrArg (Event.start files.length :: ·) hevents
  · have hnotices := congrArg ScanRun.notices hinner
    simp only [run, scan, List.dropLast_concat]
    exact hnotices
  · have houtcome := congrArg ScanRun.outcome hinner
    have hcancelled : (run limit).outcome.cancelled = (run limit').outcome.cancelled :=
      congrArg (service.watched stopAt).cancelled (hstate limit)
    exact congr (congrArg (fun (outcome : Outcome) cancelled =>
      { outcome with filesTotal := files.length, cancelled := cancelled }) houtcome) hcancelled
  · rw [hfound, hfound]
    exact Config.within_sublist h counted
  · rw [hfound, hfound]
    exact Config.within_perm h counted

/-- Four methods, of which each has one reference more than the one before it. The query about the
last one fails. -/
def gradedAnswers : FileAnswers where
  outline := .ok (some ((List.range 4).map fun k =>
    .node s!"m{k}" ⟨6⟩ ⟨k.toUInt32, 2⟩ []))
  references place := if place.line == 3 then .error .closed else .ok (some place.line.toNat)

/-- The first file fails at its last method, and the user asks to stop during the query about the
third method of the other one. With the higher threshold that method is found as well, in both
files. -/
theorem scan_threshold_graded :
    let service := table (fun _ => gradedAnswers) true
    let files : List SourceFile := [⟨"/a.dart", "/"⟩, ⟨"/b.dart", "/"⟩]
    let run limit :=
      scan (Config.withThreshold {} limit) "/" (service.watched (some 12)) files ⟨{}, []⟩
    let third (path : String) : Finding := ⟨"m2", path, 3, "method"⟩
    1 ≤ 2 ∧ (run 1).state.calls.length = 13 ∧ (run 1).state = (run 2).state ∧
      (run 1).outcome.findings.Sublist (run 2).outcome.findings ∧
      (run 2).outcome.findings.Perm
        ((run 1).outcome.findings ++ [third "/a.dart", third "/b.dart"]) := by
  intro service files run third
  obtain ⟨hstate, -, -, -, -, -, -, hsublist, hperm⟩ :=
    scan_threshold {} "/" service (some 12) files {} (show 1 ≤ 2 by decide)
  exact ⟨by decide, by decide +kernel, hstate, hsublist, hperm.trans (by decide +kernel)⟩

end DeadSymbols
