import DeadSymbols.Proofs.Calls

/-!
# Cancelling a scan

A scan during which the user asks to stop is compared with the same scan when nobody does. Both
are scans of a watched service, so their calls can be compared.

* `Call.Releases`: the calls that are still needed after a call, to release the open document.
* `walk_cut`, `scanFile_cut`, `scanFiles_cut`: up to the call during which the user asks to stop the
  two runs are the same.
* `scan_cut`: a cancelled scan makes the calls up to that one and those that release the document,
  and finds what those calls justify.
-/

namespace DeadSymbols

/-- What has to be called after `last` to release the document that is open then, if one is. -/
def Call.Releases (last : Call) (tail : List Call) : Prop :=
  match last with
  | .openDocument _ (.ok document) => ∃ outline closed,
    tail = [.documentSymbols document outline, .closeDocument document closed]
  | .openDocument _ (.error _) => tail = []
  | .documentSymbols document _ => ∃ closed, tail = [.closeDocument document closed]
  | .references document _ _ => ∃ closed, tail = [.closeDocument document closed]
  | .closeDocument _ _ => tail = []

variable {σ : Type} {config : Config} {service : Service σ} {document : Document}

/-- No call of a tail is a query for references, so a tail justifies nothing. -/
theorem Call.Releases.justified {last : Call} {tail : List Call} (h : last.Releases tail)
    (pending : List Symbol) : config.justified pending tail = [] := by
  refine Config.justified_eq_nil ?_ pending
  unfold Call.Releases at h
  split at h
  · obtain ⟨outline, closed, rfl⟩ := h; simp
  · subst h; simp
  · obtain ⟨closed, rfl⟩ := h; simp
  · obtain ⟨closed, rfl⟩ := h; simp
  · subst h; simp

/-- `cut` has the calls of `full` up to number `k`, and after that those of `tail`. -/
def CutAt (k : Nat) (full cut tail : List Call) (last : Call) : Prop :=
  ∃ before after, full = before ++ last :: after ∧ cut = before ++ last :: tail ∧
    before.length + 1 = k

theorem CutAt.extend {k : Nat} {full cut tail : List Call} {last : Call}
    (h : CutAt k full cut tail last) (more tail' : List Call) :
    CutAt k (full ++ more) (cut ++ tail') (tail ++ tail') last := by
  obtain ⟨before, after, rfl, rfl, hk⟩ := h
  exact ⟨before, after ++ more, by simp, by simp, hk⟩

theorem CutAt.at_end {k : Nat} {before calls : List Call} {last : Call}
    (h : calls = before ++ [last]) (hlast : before.length < k) (hk : k ≤ calls.length) :
    CutAt k calls calls [] last := by
  refine ⟨before, [], h, h, ?_⟩
  rw [h, List.length_append, List.length_singleton] at hk
  omega

theorem CutAt.le_length {k : Nat} {full cut tail : List Call} {last : Call}
    (h : CutAt k full cut tail last) : k ≤ cut.length := by
  obtain ⟨before, after, -, rfl, rfl⟩ := h
  rw [List.length_append, List.length_cons]
  omega

/-- How a file may end if the user asks to stop while it is scanned. -/
def EndsEarlier (cut full : Except Fault FileStatus) : Prop :=
  cut = full ∨ cut = .ok .interrupted

/-! ## Before and after the user asks to stop -/

theorem watched_never (w : Watch σ) : (service.watched none).cancelled w = false := rfl

theorem watched_goesOn {k : Nat} {w : Watch σ} (hw : w.calls.length < k) :
    (service.watched (some k)).cancelled w = false := by
  simpa [Service.watched] using hw

theorem watched_stops {k : Nat} {w : Watch σ} (hk : k ≤ w.calls.length) :
    (service.watched (some k)).cancelled w = true := by
  simpa [Service.watched] using hk

/-- A walk that starts after the user has asked to stop makes no call. -/
theorem walk_stopped {k : Nat} {w : Watch σ} (hk : k ≤ w.calls.length) (stack : List Symbol) :
    walk config (service.watched (some k)) document stack w =
      .ended (.ok (if stack.isEmpty then .scanned else .interrupted)) w := by
  cases stack with
  | nil => rw [walk]; rfl
  | cons symbol stack => exact walk_stop (watched_stops hk)

/-- A walk that is stopped at its start ends like one that is not, or is interrupted. -/
theorem walk_endsEarlier (stack : List Symbol) (w : Watch σ) :
    EndsEarlier (.ok (if stack.isEmpty then .scanned else .interrupted))
      (walk config (service.watched none) document stack w).status := by
  cases stack with
  | nil => rw [walk]; exact .inl rfl
  | cons symbol stack => exact .inr rfl

section Loops

variable (config service document)

/-- **Walks.** A walk is the same up to the call during which the user asks to stop, and then
ends. -/
theorem walk_cut (k : Nat) (stack : List Symbol) (w : Watch σ) (hw : w.calls.length < k) :
    let full := walk config (service.watched none) document stack w
    let cut := walk config (service.watched (some k)) document stack w
    (full.state.calls.length < k → cut = full) ∧
      (k ≤ full.state.calls.length → EndsEarlier cut.status full.status ∧ ∃ place answer,
        CutAt k full.state.calls cut.state.calls [] (.references document place answer)) := by
  fun_induction walk config (service.watched none) document stack w with
  | case1 w =>
    rw [walk]
    exact ⟨fun _ => rfl, fun hk => absurd hw (Nat.not_lt.2 hk)⟩
  | case2 symbol stack w hc => cases hc
  | case3 symbol stack w hc hv ih => rw [walk_skip (watched_goesOn hw) hv]; exact ih hw
  | case4 symbol stack w hc hv ih => rw [walk_descend (watched_goesOn hw) hv]; exact ih hw
  | case5 symbol stack w hc hv asked fault after ha =>
    -- the fault ends both walks
    rw [walk_fault (watched_goesOn hw) hv ha]
    exact ⟨fun _ => rfl, fun hk => ⟨.inl rfl, symbol.anchor, .error fault,
      .at_end (Watch.calls_of_note ha) hw hk⟩⟩
  | case6 symbol stack w hc hv asked count after ha ih =>
    rw [walk_count (watched_goesOn hw) hv ha]
    have hafter := Watch.calls_of_note ha
    obtain ⟨new, hnew, -, -⟩ :=
      walk_calls config service none document (symbol.children ++ stack) after
    by_cases hk : after.calls.length < k
    · obtain ⟨hsame, hcut⟩ := ih hk
      exact ⟨fun h => by rw [hsame h], hcut⟩
    -- the user asks to stop during this query
    · rw [walk_stopped (Nat.not_lt.1 hk)]
      have hlen : after.calls.length = w.calls.length + 1 := by rw [hafter]; simp
      refine ⟨fun h => ?_, fun _ => ⟨walk_endsEarlier _ _, symbol.anchor, .ok count, w.calls, new,
        ?_, hafter, by omega⟩⟩
      · simp only [FileScan.after, hnew, List.length_append] at h
        omega
      · simp only [FileScan.after, hnew, hafter, List.append_assoc, List.singleton_append]

/-- **Walks of documents** are cut in the same way, also during the query for the outline. -/
theorem walkDocument_cut (k : Nat) (w : Watch σ) (hw : w.calls.length < k) :
    let full := walkDocument config (service.watched none) document w
    let cut := walkDocument config (service.watched (some k)) document w
    (full.state.calls.length < k → cut = full) ∧
      (k ≤ full.state.calls.length → EndsEarlier cut.status full.status ∧ ∃ last,
        CutAt k full.state.calls cut.state.calls [] last ∧
          ∀ closed, last.Releases [.closeDocument document closed]) := by
  rcases ha : (service.watched none).documentSymbols document w with ⟨answer, after⟩
  have ha' : (service.watched (some k)).documentSymbols document w = (answer, after) := ha
  have hafter := Watch.calls_of_note ha
  -- only an outline makes the walk go on after the query
  rcases answer with fault | outline | outline
  · simp only [walkDocument, ha, ha']
    exact ⟨fun _ => trivial, fun hk => ⟨.inl rfl, _, .at_end hafter hw hk,
      fun closed => ⟨closed, rfl⟩⟩⟩
  · simp only [walkDocument, ha, ha']
    exact ⟨fun _ => trivial, fun hk => ⟨.inl rfl, _, .at_end hafter hw hk,
      fun closed => ⟨closed, rfl⟩⟩⟩
  · simp only [walkDocument, ha, ha']
    by_cases hk : after.calls.length < k
    · obtain ⟨hsame, hcut⟩ := walk_cut config service document k outline after hk
      refine ⟨fun h => by rw [hsame h], fun h => ?_⟩
      obtain ⟨hends, place, answer, hat⟩ := hcut h
      exact ⟨hends, _, hat, fun closed => ⟨closed, rfl⟩⟩
    -- the user asks to stop during the query for the outline
    · obtain ⟨new, hnew, -, -⟩ := walk_calls config service none document outline after
      have hlen : after.calls.length = w.calls.length + 1 := by rw [hafter]; simp
      rw [walk_stopped (Nat.not_lt.1 hk)]
      refine ⟨fun h => ?_, fun _ => ⟨walk_endsEarlier _ _, .documentSymbols document _,
        ⟨w.calls, new, ?_, hafter, by omega⟩, fun closed => ⟨closed, rfl⟩⟩⟩
      · simp only [FileScan.after, hnew, List.length_append] at h
        omega
      · simp only [FileScan.after, hnew, hafter, List.append_assoc, List.singleton_append]

/-- The walk of a document that is opened while the user asks to stop only makes the query for the
outline. -/
theorem walkDocument_stopped {k : Nat} {w : Watch σ} (hk : k ≤ w.calls.length) :
    let full := walkDocument config (service.watched none) document w
    let cut := walkDocument config (service.watched (some k)) document w
    EndsEarlier cut.status full.status ∧
      ∃ outline, cut.state.calls = w.calls ++ [.documentSymbols document outline] := by
  rcases ha : (service.watched none).documentSymbols document w with ⟨answer, after⟩
  have ha' : (service.watched (some k)).documentSymbols document w = (answer, after) := ha
  have hafter := Watch.calls_of_note ha
  rcases answer with fault | outline | outline
  · simp only [walkDocument, ha, ha']
    exact ⟨.inl rfl, _, hafter⟩
  · simp only [walkDocument, ha, ha']
    exact ⟨.inl rfl, _, hafter⟩
  · have hstop : k ≤ after.calls.length := by rw [hafter, List.length_append]; omega
    simp only [walkDocument, ha, ha', walk_stopped hstop]
    exact ⟨walk_endsEarlier _ _, _, hafter⟩

/-- **Files** are cut in the same way, and then the open document is released. -/
theorem scanFile_cut (k : Nat) (path : String) (w : Watch σ) (hw : w.calls.length < k) :
    let full := scanFile config (service.watched none) path w
    let cut := scanFile config (service.watched (some k)) path w
    (full.state.calls.length < k → cut = full) ∧
      (k ≤ full.state.calls.length → EndsEarlier cut.status full.status ∧ ∃ last tail,
        last.Releases tail ∧ CutAt k full.state.calls cut.state.calls tail last) := by
  rcases ha : (service.watched none).openDocument path w with ⟨fault | document, after⟩
  · have ha' : (service.watched (some k)).openDocument path w = (.error fault, after) := ha
    simp only [scanFile, ha, ha']
    exact ⟨fun _ => trivial, fun hk => ⟨.inl rfl, .openDocument path (.error fault), [], rfl,
      .at_end (Watch.calls_of_note ha) hw hk⟩⟩
  · have ha' : (service.watched (some k)).openDocument path w = (.ok document, after) := ha
    have hafter := Watch.calls_of_note ha
    have hlen : after.calls.length = w.calls.length + 1 := by rw [hafter]; simp
    simp only [scanFile, ha, ha', FileScan.after, calls_close]
    by_cases hk : after.calls.length < k
    · obtain ⟨hsame, hwalk⟩ := walkDocument_cut config service document k after hk
      by_cases hd :
          (walkDocument config (service.watched none) document after).state.calls.length < k
      -- the user asks to stop during the close, or later
      · rw [hsame hd]
        exact ⟨fun _ => rfl, fun hle => ⟨.inl rfl, .closeDocument document _, [], rfl,
          .at_end rfl hd hle⟩⟩
      · obtain ⟨hends, last, hat, hreleases⟩ := hwalk (Nat.not_lt.1 hd)
        refine ⟨fun h => ?_, fun _ => ⟨hends, last, _, hreleases _, hat.extend _ _⟩⟩
        rw [List.length_append] at h
        omega
    -- the user asks to stop during the open
    · obtain ⟨hends, outline, hcut⟩ :=
        walkDocument_stopped config service document (Nat.not_lt.1 hk)
      obtain ⟨answer, new, hnew, -, -⟩ := walkDocument_calls config service none document after
      generalize (service.release document
        (walkDocument config (service.watched none) document after).state.state).1 = closed
      generalize (service.release document
        (walkDocument config (service.watched (some k)) document after).state.state).1 = closed'
      rw [hcut, hnew, hafter]
      refine ⟨fun h => ?_, fun _ => ⟨hends, .openDocument path (.ok document),
        [.documentSymbols document outline, .closeDocument document closed'],
        ⟨outline, closed', rfl⟩, w.calls,
        .documentSymbols document answer :: (new ++ [.closeDocument document closed]),
        by simp, by simp, by omega⟩⟩
      simp only [List.length_append, List.length_cons] at h
      omega

/-! ## Scans -/

/-- Counting one more file keeps the order of the counts, also if the file is cut. -/
theorem count_le {cut full : Outcome} {status status' : Except Fault FileStatus}
    (hends : EndsEarlier status status') (h1 : cut.filesScanned ≤ full.filesScanned)
    (h2 : cut.filesSkipped ≤ full.filesSkipped) (h3 : cut.filesFailed ≤ full.filesFailed) :
    (cut.count status).filesScanned ≤ (full.count status').filesScanned ∧
      (cut.count status).filesSkipped ≤ (full.count status').filesSkipped ∧
      (cut.count status).filesFailed ≤ (full.count status').filesFailed := by
  rcases hends with rfl | rfl
  · rcases status with fault | _ | _ | _ <;> simp only [Outcome.count] <;> omega
  · rcases status' with fault | _ | _ | _ <;> simp only [Outcome.count] <;> omega

/-- **Scans** are cut in the same way: the files before the cut end as they do otherwise, and no file
after it is begun. -/
theorem scanFiles_cut (k : Nat) (base : String) (total : Nat) (files : List SourceFile) :
    ∀ (index : Nat) (w : Watch σ), w.calls.length < k →
      let full := scanFiles config base (service.watched none) total index files w
      let cut := scanFiles config base (service.watched (some k)) total index files w
      (full.state.calls.length < k → cut = full) ∧
        (k ≤ full.state.calls.length → (∃ last tail, last.Releases tail ∧
            CutAt k full.state.calls cut.state.calls tail last) ∧
          cut.outcome.filesScanned ≤ full.outcome.filesScanned ∧
          cut.outcome.filesSkipped ≤ full.outcome.filesSkipped ∧
          cut.outcome.filesFailed ≤ full.outcome.filesFailed) := by
  induction files with
  | nil => intro index w hw; exact ⟨fun _ => rfl, fun hk => absurd hw (Nat.not_lt.2 hk)⟩
  | cons file rest ih =>
    intro index w hw
    obtain ⟨hsame, hfile⟩ := scanFile_cut config service k file.path w hw
    rw [scanFiles_cons (watched_never w), scanFiles_cons (watched_goesOn hw)]
    by_cases hk : (scanFile config (service.watched none) file.path w).state.calls.length < k
    · rw [hsame hk]
      obtain ⟨hrest, hcut⟩ := ih (index + 1) _ hk
      refine ⟨fun h => by rw [hrest h], fun h => ?_⟩
      obtain ⟨hat, h1, h2, h3⟩ := hcut h
      exact ⟨hat, count_le (.inl rfl) h1 h2 h3⟩
    -- the user asks to stop during this file, so none of the others is begun
    · obtain ⟨hends, last, tail, hreleases, hat⟩ := hfile (Nat.not_lt.1 hk)
      obtain ⟨more, hmore, -⟩ := scanFiles_calls config service none base total rest (index + 1)
        (scanFile config (service.watched none) file.path w).state
      rw [scanFiles_stopped (watched_stops hat.le_length)]
      refine ⟨fun h => ?_, fun _ => ⟨⟨last, tail, hreleases, ?_⟩,
        count_le hends (Nat.zero_le _) (Nat.zero_le _) (Nat.zero_le _)⟩⟩
      · simp only [ScanRun.after, hmore, List.length_append] at h
        omega
      · simpa only [ScanRun.after, hmore, List.append_nil] using hat.extend more []

end Loops

/-- A scan that starts after the user has asked to stop makes no call and reports no file. -/
theorem scan_stopped {service : Service σ} {state : σ} (h : service.cancelled state = true)
    (base : String) (files : List SourceFile) :
    scan config base service files state =
      ⟨{ filesTotal := files.length, cancelled := true },
        [.start files.length, .finish true 0], [.scanned 0 files.length 0], state⟩ := by
  simp only [scan, scanFiles_stopped h, h]
  rfl

/-- A scan that was cut has found what the calls up to the cut justify. -/
theorem CutAt.findings {k : Nat} {full cut tail : List Call} {last : Call}
    (h : CutAt k full cut tail last) (hreleases : last.Releases tail) :
    config.justified [] cut = config.justified [] (full.take k) := by
  obtain ⟨before, after, rfl, rfl, rfl⟩ := h
  have hcut : before ++ last :: tail = (before ++ [last]) ++ tail := by simp
  have hfull : before ++ last :: after = (before ++ [last]) ++ after := by simp
  rw [hcut, Config.justified_append, hreleases.justified, List.append_nil, hfull,
    List.take_left' (by simp)]

/-- **Cancelling a scan.** Let the user ask to stop during call number `k` of a scan, and compare
this with the same scan when nobody asks. The calls are the same up to that one, after it come those
that release the open document, and the findings are those that the first `k` calls justify. -/
theorem scan_cut (config : Config) (base : String) (service : Service σ) (files : List SourceFile)
    (state : σ) (k : Nat) :
    let full := scan config base (service.watched none) files ⟨state, []⟩
    let cut := scan config base (service.watched (some k)) files ⟨state, []⟩
    full.outcome.cancelled = false ∧
      full.outcome.findings = config.justified [] full.state.calls ∧
      (k = 0 → cut = ⟨{ filesTotal := files.length, cancelled := true },
        [.start files.length, .finish true 0], [.scanned 0 files.length 0], ⟨state, []⟩⟩) ∧
      (full.state.calls.length < k → cut = full) ∧
      (0 < k → k ≤ full.state.calls.length →
        (∃ before last after tail, full.state.calls = before ++ last :: after ∧
          before.length + 1 = k ∧ cut.state.calls = before ++ last :: tail ∧
          last.Releases tail) ∧
        cut.outcome.findings = config.justified [] (full.state.calls.take k) ∧
        cut.outcome.findings <+: full.outcome.findings ∧
        cut.outcome.filesTotal = full.outcome.filesTotal ∧
        cut.outcome.filesScanned ≤ full.outcome.filesScanned ∧
        cut.outcome.filesSkipped ≤ full.outcome.filesSkipped ∧
        cut.outcome.filesFailed ≤ full.outcome.filesFailed ∧
        cut.outcome.cancelled = true) := by
  intro full cut
  obtain ⟨calls, hcalls, hfull⟩ :=
    scanFiles_calls config service none base files.length files 1 ⟨state, []⟩
  obtain ⟨calls', hcalls', hcut⟩ :=
    scanFiles_calls config service (some k) base files.length files 1 ⟨state, []⟩
  rw [List.nil_append] at hcalls hcalls'
  subst hcalls hcalls'
  refine ⟨rfl, hfull, fun h => ?_, fun h => ?_, fun hpos hk => ?_⟩
  · subst h
    exact scan_stopped (watched_stops (Nat.zero_le _)) base files
  · obtain ⟨hsame, -⟩ := scanFiles_cut config service k base files.length
      files 1 ⟨state, []⟩ (Nat.zero_lt_of_lt h)
    have hgoes : (service.watched (some k)).cancelled full.state = false := watched_goesOn h
    simp only [full, scan] at hgoes
    simp only [full, cut, scan, hsame h, hgoes]
    rfl
  · obtain ⟨-, hk'⟩ := scanFiles_cut config service k base files.length
      files 1 ⟨state, []⟩ hpos
    obtain ⟨⟨last, tail, hreleases, hat⟩, h1, h2, h3⟩ := hk' hk
    have hfound : cut.outcome.findings = config.justified [] (full.state.calls.take k) :=
      hcut.trans (hat.findings hreleases)
    have cut_stops : (service.watched (some k)).cancelled cut.state = true :=
      watched_stops hat.le_length
    refine ⟨?_, hfound, ?_, rfl, h1, h2, h3,
      cut_stops⟩
    · obtain ⟨before, after, hbefore, hafter, hlen⟩ := hat
      exact ⟨before, last, after, tail, hbefore, hlen, hafter, hreleases⟩
    · rw [hfound]
      refine ⟨config.justified ((full.state.calls.take k).foldl config.pendingAfter [])
        (full.state.calls.drop k), ?_⟩
      rw [← Config.justified_append, List.take_append_drop]
      exact hfull.symm

/-- The user asks to stop during the first query about the third file. Its document is released, what
the query found counts, and the file does not. -/
theorem scan_cut_troubled :
    let full := troubledScan none
    let cut := troubledScan (some 9)
    full.state.calls.length = 11 ∧
      (∃ before last after tail, full.state.calls = before ++ last :: after ∧
        before.length + 1 = 9 ∧ cut.state.calls = before ++ last :: tail ∧ last.Releases tail) ∧
      cut.state.calls.length = 10 ∧
      cut.outcome.findings = Config.justified {} [] (full.state.calls.take 9) ∧
      cut.outcome = { findings := [⟨"open", "/a.dart", 1, "method"⟩, ⟨"open", "/c.dart", 1, "method"⟩],
                      filesTotal := 3, filesSkipped := 1, filesFailed := 1, cancelled := true } := by
  intro full cut
  have hfull : full.state.calls.length = 11 := by decide +kernel
  obtain ⟨-, -, -, -, hcut⟩ := scan_cut {} "/" (table troubledAnswers true) troubledFiles {} 9
  obtain ⟨hcalls, hfindings, -⟩ := hcut (by decide) (by
    show 9 ≤ full.state.calls.length
    rw [hfull]
    decide)
  exact ⟨hfull, hcalls, by decide +kernel, hfindings, by decide +kernel⟩

end DeadSymbols
