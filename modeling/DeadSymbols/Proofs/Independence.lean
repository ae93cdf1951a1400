import DeadSymbols.Proofs.Calls

/-!
# Files are scanned independently

The answers of some services depend only on what they are asked, and not on what was asked before.
The scan of a file by such a service does not depend on the files around it.

* `Service.AgreeOn`: two services give the same answers about a file.
* `scanFile_agree`: the scan of a file only depends on the answers about it.
* `scan_madeOf`: a scan is made of one block for each file.
* `scan_independent`: what follows for files that are added, moved, repeated or answered otherwise.
-/

namespace DeadSymbols

variable {config : Config} {σ τ : Type} {service : Service σ} {service' : Service τ}

/-- Two services give the same answers about a document, whatever they were asked before. -/
structure Service.AgreeAbout (service : Service σ) (service' : Service τ) (document : Document) :
    Prop where
  outline : ∀ s t, (service.documentSymbols document s).1 = (service'.documentSymbols document t).1
  count : ∀ place s t,
    (service.references document place s).1 = (service'.references document place t).1
  closing : ∀ s t, (service.release document s).1 = (service'.release document t).1

/-- Two services give the same answers about the file at a path, whatever they were asked before.
A service that agrees with itself gives answers that depend only on what it is asked. -/
structure Service.AgreeOn (service : Service σ) (service' : Service τ) (path : String) : Prop where
  opening : ∀ s t, (service.openDocument path s).1 = (service'.openDocument path t).1
  about : ∀ s document, (service.openDocument path s).1 = .ok document →
    service.AgreeAbout service' document

/-! ## The scan of one file -/

/-- Two scans of a file do the same. -/
structure Same (w : Watch σ) (w' : Watch τ) (scan : FileScan (Watch σ))
    (scan' : FileScan (Watch τ)) : Prop where
  status : scan.status = scan'.status
  findings : scan.findings = scan'.findings
  calls : ∃ new, scan.state.calls = w.calls ++ new ∧ scan'.state.calls = w'.calls ++ new

namespace Same

variable {w after : Watch σ} {w' after' : Watch τ} {scan : FileScan (Watch σ)}
  {scan' : FileScan (Watch τ)}

theorem ended (status : Except Fault FileStatus) (w : Watch σ) (w' : Watch τ) :
    Same w w' (.ended status w) (.ended status w') :=
  ⟨rfl, rfl, [], (List.append_nil _).symm, (List.append_nil _).symm⟩

/-- Both scans made the same call first. -/
theorem cons {call : Call} (h : Same after after' scan scan')
    (hcalls : after.calls = w.calls ++ [call]) (hcalls' : after'.calls = w'.calls ++ [call])
    (findings : List Finding) (events : List Event) :
    Same w w' (scan.after findings events) (scan'.after findings events) := by
  obtain ⟨new, hnew, hnew'⟩ := h.calls
  refine ⟨h.status, congrArg (findings ++ ·) h.findings, call :: new, ?_, ?_⟩
  · rw [FileScan.after, hnew, hcalls, List.append_assoc, List.singleton_append]
  · rw [FileScan.after, hnew', hcalls', List.append_assoc, List.singleton_append]

/-- Both scans close their document last. -/
theorem close {document : Document} (h : Same w w' scan scan')
    (hagree : service.AgreeAbout service' document) :
    Same w w' (scan.close (service.watched none) document)
      (scan'.close (service'.watched none) document) := by
  obtain ⟨new, hnew, hnew'⟩ := h.calls
  have hanswer := hagree.closing scan.state.state scan'.state.state
  refine ⟨h.status, h.findings, new ++ [.closeDocument document
    (service.release document scan.state.state).1], ?_, ?_⟩
  · rw [calls_close, hnew, List.append_assoc]
  · rw [calls_close, hnew', List.append_assoc, hanswer]

end Same

theorem Watch.note_eq {α : Type} {call : α → Call} {answer : α × σ} {a : α} (h : answer.1 = a)
    (w : Watch σ) : w.note call answer = (a, ⟨answer.2, w.calls ++ [call a]⟩) := by
  rw [Watch.note, h]

/-- **Walks agree** if the answers about their document do. -/
theorem walk_agree {document : Document} (h : service.AgreeAbout service' document)
    (stack : List Symbol) (w : Watch σ) (w' : Watch τ) :
    Same w w' (walk config (service.watched none) document stack w)
      (walk config (service'.watched none) document stack w') := by
  fun_induction walk config (service.watched none) document stack w generalizing w' with
  | case1 w =>
    rw [walk]
    exact .ended (.ok .scanned) w w'
  | case2 symbol stack w hc => cases hc
  | case3 symbol stack w hc hv ih =>
    rw [walk_skip rfl hv]
    exact ih w'
  | case4 symbol stack w hc hv ih =>
    rw [walk_descend rfl hv]
    exact ih w'
  | case5 symbol stack w hc hv asked fault after ha =>
    have hfault : (service'.references document symbol.anchor w'.state).1 = .error fault :=
      (h.count _ _ _).symm.trans (congrArg Prod.fst ha)
    rw [walk_fault rfl hv (Watch.note_eq hfault w')]
    exact (Same.ended _ _ _).cons (Watch.calls_of_note ha) rfl [] _
  | case6 symbol stack w hc hv asked count after ha ih =>
    have hcount : (service'.references document symbol.anchor w'.state).1 = .ok count :=
      (h.count _ _ _).symm.trans (congrArg Prod.fst ha)
    rw [walk_count rfl hv (Watch.note_eq hcount w')]
    exact (ih _).cons (Watch.calls_of_note ha) rfl _ _

theorem walkDocument_agree {document : Document} (h : service.AgreeAbout service' document)
    (w : Watch σ) (w' : Watch τ) :
    Same w w' (walkDocument config (service.watched none) document w)
      (walkDocument config (service'.watched none) document w') := by
  have houtline := h.outline w.state w'.state
  rcases ha : (service.watched none).documentSymbols document w with ⟨answer, after⟩
  have hanswer : (service'.documentSymbols document w'.state).1 = answer :=
    houtline.symm.trans (congrArg Prod.fst ha)
  have ha' : (service'.watched none).documentSymbols document w' = _ := Watch.note_eq hanswer w'
  simp only [walkDocument, ha, ha']
  -- the answer is a fault, nothing or an outline
  rcases answer with fault | _ | outline
  · exact (Same.ended _ _ _).cons (Watch.calls_of_note ha) rfl [] _
  · exact (Same.ended _ _ _).cons (Watch.calls_of_note ha) rfl [] _
  · exact (walk_agree h outline _ _).cons (Watch.calls_of_note ha) rfl [] _

/-- **The scan of a file only depends on the answers about that file.** -/
theorem scanFile_agree {path : String} (h : service.AgreeOn service' path) (w : Watch σ)
    (w' : Watch τ) :
    Same w w' (scanFile config (service.watched none) path w)
      (scanFile config (service'.watched none) path w') := by
  have hopening := h.opening w.state w'.state
  rcases ha : (service.watched none).openDocument path w with ⟨answer, after⟩
  have hanswer : (service'.openDocument path w'.state).1 = answer :=
    hopening.symm.trans (congrArg Prod.fst ha)
  have ha' : (service'.watched none).openDocument path w' = _ := Watch.note_eq hanswer w'
  simp only [scanFile, ha, ha']
  rcases answer with fault | document
  · exact (Same.ended _ _ _).cons (Watch.calls_of_note ha) rfl [] _
  · have habout := h.about w.state document (congrArg Prod.fst ha)
    exact ((walkDocument_agree habout _ _).close habout).cons (Watch.calls_of_note ha) rfl [] _

/-! ## Blocks of files -/

/-- What the scan of a file amounts to. -/
structure FileBlock where
  status : Except Fault FileStatus
  findings : List Finding
  calls : List Call

/-- Whether a block is counted as one that ended in some way, without a fault. -/
def FileBlock.hasEnded (status : FileStatus) (block : FileBlock) : Bool :=
  block.status.toOption == some status

/-- The block of the file at a path, when it is the first file that a service is asked about. -/
def Service.block (config : Config) (service : Service σ) (state : σ) (path : String) : FileBlock :=
  let scan := scanFile config (service.watched none) path ⟨state, []⟩
  ⟨scan.status, scan.findings, scan.state.calls⟩

/-- A block is what the scan of a file adds. -/
structure FileBlock.IsOf (block : FileBlock) (w : Watch σ) (one : FileScan (Watch σ)) : Prop where
  status : one.status = block.status
  findings : one.findings = block.findings
  calls : one.state.calls = w.calls ++ block.calls

/-- The block of a file is what its scan adds, whatever was scanned before, by all services that
give the same answers about it. -/
theorem Service.block_isOf {path : String} (h : service.AgreeOn service' path) (w : Watch σ)
    (state : τ) : (service'.block config state path).IsOf w
      (scanFile config (service.watched none) path w) := by
  have hboth : Same w ⟨state, []⟩ (scanFile config (service.watched none) path w)
    (scanFile config (service'.watched none) path ⟨state, []⟩) := scanFile_agree h w _
  obtain ⟨hstatus, hfindings, new, hnew, hnew'⟩ := hboth
  refine ⟨hstatus, hfindings, ?_⟩
  rw [hnew, Service.block, hnew', List.nil_append]

/-- A scan that goes on from some calls is made of blocks: its findings and its calls are those of
the blocks, one after another, and each block is counted once. -/
structure ScanRun.MadeOf (run : ScanRun (Watch σ)) (before : List Call) (blocks : List FileBlock) :
    Prop where
  findings : run.outcome.findings = blocks.flatMap FileBlock.findings
  calls : run.state.calls = before ++ blocks.flatMap FileBlock.calls
  scanned : run.outcome.filesScanned = blocks.countP (FileBlock.hasEnded .scanned)
  skipped : run.outcome.filesSkipped = blocks.countP (FileBlock.hasEnded .skipped)
  failed : run.outcome.filesFailed = blocks.countP fun b => b.status.toOption.isNone

/-- One more file in front. -/
theorem ScanRun.MadeOf.cons {w : Watch σ} {one : FileScan (Watch σ)} {block : FileBlock}
    {run : ScanRun (Watch σ)} {blocks : List FileBlock} (hone : block.IsOf w one)
    (h : run.MadeOf one.state.calls blocks) (relative : String) (announced : Event) :
    (run.after relative announced one).MadeOf w.calls (block :: blocks) where
  findings := by
    rw [List.flatMap_cons, ← h.findings, ← hone.findings]
    rfl
  calls := by
    rw [List.flatMap_cons, ← List.append_assoc, ← hone.calls]
    exact h.calls
  scanned := by
    show (run.outcome.count one.status).filesScanned = _
    rw [List.countP_cons, ← h.scanned, hone.status, FileBlock.hasEnded]
    rcases block.status with fault | _ | _ | _ <;> rfl
  skipped := by
    show (run.outcome.count one.status).filesSkipped = _
    rw [List.countP_cons, ← h.skipped, hone.status, FileBlock.hasEnded]
    rcases block.status with fault | _ | _ | _ <;> rfl
  failed := by
    show (run.outcome.count one.status).filesFailed = _
    rw [List.countP_cons, ← h.failed, hone.status]
    rcases block.status with fault | _ | _ | _ <;> rfl

section Blocks

variable (base : String) {block : SourceFile → FileBlock}
  (hblock : ∀ file w, (block file).IsOf w (scanFile config (service.watched none) file.path w))

include hblock

theorem scanFiles_madeOf (total : Nat) (files : List SourceFile) :
    ∀ index w, (scanFiles config base (service.watched none) total index files w).MadeOf w.calls
      (files.map block) := by
  induction files with
  | nil =>
    intro index w
    exact ⟨rfl, (List.append_nil _).symm, rfl, rfl, rfl⟩
  | cons file rest ih =>
    intro index w
    rw [scanFiles_cons rfl, List.map_cons]
    exact .cons (hblock file w) (ih (index + 1) _) _ _

/-- **A scan is made of one block for each file**, in the order of the files. -/
theorem scan_madeOf (files : List SourceFile) (start : σ) :
    (scan config base (service.watched none) files ⟨start, []⟩).MadeOf [] (files.map block) := by
  have h := scanFiles_madeOf base hblock files.length files 1 ⟨start, []⟩
  exact ⟨h.findings, h.calls, h.scanned, h.skipped, h.failed⟩

end Blocks

/-- **Files are scanned independently.** Let the answers of a service depend only on what it is
asked, and let nobody ask to stop. Then a scan of files is made of one block for each of them, in
their order, and a file that stands in the list twice has its block twice. So the scan of two
lists of files finds, counts and calls what the scans of the two lists do, in whatever states they
start. Moving files moves their blocks and leaves the counts as they are. If one file gets other
answers, errors for example, only its own blocks change. -/
theorem scan_independent (config : Config) (base : String) (service : Service σ)
    (hsame : ∀ path, service.AgreeOn service path) (state : σ) :
    let run (files : List SourceFile) (start : σ) :=
      scan config base (service.watched none) files ⟨start, []⟩
    let block (file : SourceFile) := service.block config state file.path
    (∀ files start, (run files start).MadeOf [] (files.map block)) ∧
      (∀ xs ys start start₁ start₂,
        let whole := run (xs ++ ys) start
        let first := run xs start₁
        let second := run ys start₂
        whole.outcome.findings = first.outcome.findings ++ second.outcome.findings ∧
          whole.outcome.filesTotal = first.outcome.filesTotal + second.outcome.filesTotal ∧
          whole.outcome.filesScanned = first.outcome.filesScanned + second.outcome.filesScanned ∧
          whole.outcome.filesSkipped = first.outcome.filesSkipped + second.outcome.filesSkipped ∧
          whole.outcome.filesFailed = first.outcome.filesFailed + second.outcome.filesFailed ∧
          whole.state.calls = first.state.calls ++ second.state.calls) ∧
      (∀ xs ys start start', xs.Perm ys → (xs.map block).Perm (ys.map block) ∧
        { (run xs start).outcome with findings := [] } =
          { (run ys start').outcome with findings := [] }) ∧
      ∀ (τ : Type) (service' : Service τ) (state' : τ) (path : String),
        (∀ p, service'.AgreeOn service' p) → (∀ p ≠ path, service'.AgreeOn service p) →
        ∀ files start, (scan config base (service'.watched none) files ⟨start, []⟩).MadeOf []
          (files.map fun file =>
            if file.path = path then service'.block config state' path else block file) := by
  intro run block
  have hmade : ∀ files start, (run files start).MadeOf [] (files.map block) :=
    scan_madeOf base fun file w => Service.block_isOf (hsame file.path) w state
  refine ⟨hmade, ?_, ?_, ?_⟩
  · intro xs ys start start₁ start₂ whole first second
    have hwhole := hmade (xs ++ ys) start
    have hfirst := hmade xs start₁
    have hsecond := hmade ys start₂
    rw [List.map_append] at hwhole
    refine ⟨?_, List.length_append, ?_, ?_, ?_, ?_⟩
    · rw [hwhole.findings, hfirst.findings, hsecond.findings, List.flatMap_append]
    · rw [hwhole.scanned, hfirst.scanned, hsecond.scanned, List.countP_append]
    · rw [hwhole.skipped, hfirst.skipped, hsecond.skipped, List.countP_append]
    · rw [hwhole.failed, hfirst.failed, hsecond.failed, List.countP_append]
    · rw [hwhole.calls, hfirst.calls, hsecond.calls, List.flatMap_append]
      rfl
  · intro xs ys start start' hperm
    have hblocks := hperm.map block
    have hxs := hmade xs start
    have hys := hmade ys start'
    refine ⟨hblocks, ?_⟩
    simp only [Outcome.mk.injEq, true_and]
    refine ⟨hperm.length_eq, ?_, ?_, ?_, rfl⟩
    · rw [hxs.scanned, hys.scanned, hblocks.countP_eq]
    · rw [hxs.skipped, hys.skipped, hblocks.countP_eq]
    · rw [hxs.failed, hys.failed, hblocks.countP_eq]
  · intro τ service' state' path hsame' hother
    refine scan_madeOf base fun file w => ?_
    by_cases hpath : file.path = path
    · rw [if_pos hpath, ← hpath]
      exact Service.block_isOf (hsame' file.path) w state'
    · rw [if_neg hpath]
      exact Service.block_isOf (hother file.path hpath) w state

/-- The answers of a table depend only on what it is asked. -/
theorem table_agreeOn (answers : String → FileAnswers) (releases : Bool) (path : String) :
    (table answers releases).AgreeOn (table answers releases) path where
  opening _ _ := rfl
  about _ document _ :=
    { outline := fun _ _ => rfl
      count := fun _ _ _ => rfl
      closing := fun _ _ => by cases releases <;> rfl }

/-- A file that cannot be loaded, among files in which a query for references fails. -/
def unevenAnswers (path : String) : FileAnswers :=
  if path = "/a.dart" then { loading := some (.invalidPath path) } else nestedAnswers

/-- A file that stands in the list twice has its finding twice, although both times its scan
fails after it. -/
theorem scan_independent_repeated :
    let service := table unevenAnswers true
    let a : SourceFile := ⟨"/a.dart", "/"⟩
    let b : SourceFile := ⟨"/b.dart", "/"⟩
    let whole := scan {} "/" (service.watched none) ([a, b] ++ [b]) ⟨{}, []⟩
    (∀ path, service.AgreeOn service path) ∧
      whole.outcome.findings =
        [⟨"build", "/b.dart", 2, "method"⟩, ⟨"build", "/b.dart", 2, "method"⟩] ∧
      whole.outcome.filesSkipped = 1 ∧ whole.outcome.filesFailed = 2 := by
  intro service a b whole
  have hsame := table_agreeOn unevenAnswers true
  obtain ⟨-, happend, -⟩ := scan_independent {} "/" service hsame {}
  obtain ⟨hfindings, -, -, hskipped, hfailed, -⟩ := happend [a, b] [b] {} {} {}
  exact ⟨hsame, hfindings.trans (by decide +kernel), hskipped.trans (by decide +kernel),
    hfailed.trans (by decide +kernel)⟩

end DeadSymbols
