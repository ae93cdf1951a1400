import DeadSymbols.Proofs.Accounting

/-!
# Scans as sequences of calls

A scan has no part in the state of its service but by its calls. So the state at any moment of a
scan is that after the calls that were made up to then, and every answer is the one that the
service gives in that state.

* `Service.after`, `Service.Gives`: the state after a call, and the answer to it.
* `Service.Answers`: calls with the answers that a service gives to them one after another.
* `scan_answers`: the calls of a scan are such calls.
* `Service.Maps`, `scan_maps`: services of which one does what the other one does.
* `scan_watched`: it makes no difference to a scan that its calls are written down.
-/

namespace DeadSymbols

variable {config : Config} {σ : Type} {service : Service σ}

namespace Service

/-- The state after a call. -/
def after (service : Service σ) (state : σ) : Call → σ
  | .openDocument path _ => (service.openDocument path state).2
  | .documentSymbols document _ => (service.documentSymbols document state).2
  | .references document place _ => (service.references document place state).2
  | .closeDocument document _ => (service.release document state).2

/-- A call has the answer that the service gives to it. -/
def Gives (service : Service σ) (state : σ) : Call → Prop
  | .openDocument path answer => (service.openDocument path state).1 = answer
  | .documentSymbols document answer => (service.documentSymbols document state).1 = answer
  | .references document place answer => (service.references document place state).1 = answer
  | .closeDocument document answer => (service.release document state).1 = answer

/-- The state after some calls. -/
def replay (service : Service σ) (state : σ) (calls : List Call) : σ :=
  calls.foldl service.after state

/-- Some calls, made one after another, have the answers that the service gives to them. -/
def Answers (service : Service σ) : σ → List Call → Prop
  | _, [] => True
  | state, call :: rest => service.Gives state call ∧ service.Answers (service.after state call) rest

theorem replay_append (state : σ) (xs ys : List Call) :
    service.replay state (xs ++ ys) = service.replay (service.replay state xs) ys :=
  List.foldl_append

theorem answers_append {state : σ} {xs ys : List Call} :
    service.Answers state (xs ++ ys) ↔
      service.Answers state xs ∧ service.Answers (service.replay state xs) ys := by
  induction xs generalizing state with
  | nil => simp [Answers, replay]
  | cons call rest ih =>
    rw [List.cons_append, Answers, Answers, ih, and_assoc]
    rfl

/-- What stays true during a call stays true during some. -/
theorem replay_keeps {P : σ → Prop} (hkeeps : ∀ call state, P state → P (service.after state call))
    (calls : List Call) : ∀ {state : σ}, P state → P (service.replay state calls) := by
  induction calls with
  | nil => exact fun h => h
  | cons call rest ih => exact fun h => ih (hkeeps call _ h)

end Service

/-! ## Watched services -/

/-- Between two states of a watched service there were only calls, with the answers that it gave. -/
def Service.Leads (service : Service σ) (w after : Watch σ) : Prop :=
  ∃ new, after.calls = w.calls ++ new ∧ service.Answers w.state new ∧
    after.state = service.replay w.state new

namespace Service.Leads

variable {w after last : Watch σ}

theorem refl (w : Watch σ) : service.Leads w w :=
  ⟨[], (List.append_nil _).symm, trivial, rfl⟩

theorem trans (h : service.Leads w after) (h' : service.Leads after last) :
    service.Leads w last := by
  obtain ⟨xs, hcalls, hanswers, hstate⟩ := h
  obtain ⟨ys, hcalls', hanswers', hstate'⟩ := h'
  refine ⟨xs ++ ys, by rw [hcalls', hcalls, List.append_assoc], ?_, ?_⟩
  · exact Service.answers_append.2 ⟨hanswers, hstate ▸ hanswers'⟩
  · rw [hstate', hstate, Service.replay_append]

/-- A call that is written down with the answer to it. -/
theorem of_note {α : Type} {call : α → Call} {answer : α × σ} {a : α}
    (hnote : w.note call answer = (a, after)) (hgives : service.Gives w.state (call answer.1))
    (hafter : service.after w.state (call answer.1) = answer.2) : service.Leads w after := by
  cases hnote
  exact ⟨[call answer.1], rfl, ⟨hgives, trivial⟩, hafter.symm⟩

end Service.Leads

section Scans

variable (config) (service) (stopAt : Option Nat) (document : Document)

theorem walk_leads (stack : List Symbol) (w : Watch σ) :
    service.Leads w (walk config (service.watched stopAt) document stack w).state := by
  fun_induction walk config (service.watched stopAt) document stack w with
  | case1 w => exact .refl w
  | case2 symbol stack w hc => exact .refl w
  | case3 symbol stack w hc hv ih => exact ih
  | case4 symbol stack w hc hv ih => exact ih
  | case5 symbol stack w hc hv asked fault after ha => exact .of_note ha rfl rfl
  | case6 symbol stack w hc hv asked count after ha ih => exact .trans (.of_note ha rfl rfl) ih

theorem walkDocument_leads (w : Watch σ) :
    service.Leads w (walkDocument config (service.watched stopAt) document w).state := by
  rcases ha : (service.watched stopAt).documentSymbols document w with
    ⟨fault | _ | outline, after⟩
  all_goals
    have hasked : service.Leads w after := .of_note ha rfl rfl
    simp only [walkDocument, ha]
  · exact hasked
  · exact hasked
  · exact hasked.trans (walk_leads config service stopAt document outline after)

theorem scanFile_leads (path : String) (w : Watch σ) :
    service.Leads w (scanFile config (service.watched stopAt) path w).state := by
  rcases ha : (service.watched stopAt).openDocument path w with ⟨fault | document, opened⟩
  all_goals
    have hopened : service.Leads w opened := .of_note ha rfl rfl
    simp only [scanFile, ha]
  · exact hopened
  · have hwalked := walkDocument_leads config service stopAt document opened
    refine (hopened.trans hwalked).trans ?_
    exact ⟨[_], calls_close service stopAt document _, ⟨rfl, trivial⟩, rfl⟩

theorem scanFiles_leads (base : String) (total : Nat) (files : List SourceFile) :
    ∀ index w, service.Leads w
      (scanFiles config base (service.watched stopAt) total index files w).state := by
  induction files with
  | nil => exact fun index w => .refl w
  | cons file rest ih =>
    intro index w
    cases hc : (service.watched stopAt).cancelled w with
    | true =>
      rw [scanFiles_stopped hc]
      exact .refl w
    | false =>
      rw [scanFiles_cons hc]
      exact (scanFile_leads config service stopAt file.path w).trans (ih (index + 1) _)

/-- **The calls of a scan have the answers that the service gives to them**, one after another,
and nothing else changes its state. -/
theorem scan_answers (base : String) (files : List SourceFile) (state : σ) :
    let run := scan config base (service.watched stopAt) files ⟨state, []⟩
    service.Answers state run.state.calls ∧
      run.state.state = service.replay state run.state.calls := by
  obtain ⟨new, hcalls, hanswers, hstate⟩ :=
    scanFiles_leads config service stopAt base files.length files 1 ⟨state, []⟩
  have hnew : (scan config base (service.watched stopAt) files ⟨state, []⟩).state.calls = new :=
    hcalls.trans (List.nil_append new)
  intro run
  rw [hnew]
  exact ⟨hanswers, hstate⟩

end Scans

/-! ## Services seen through a map -/

/-- One service does what another one does, its states seen through a map. Of a close only the state
after it counts, and so only one of the two may want to be told. -/
structure Service.Maps {τ : Type} (f : σ → τ) (service : Service σ) (image : Service τ) : Prop where
  opening : ∀ path state, image.openDocument path (f state) =
    ((service.openDocument path state).1, f (service.openDocument path state).2)
  outline : ∀ document state, image.documentSymbols document (f state) =
    ((service.documentSymbols document state).1, f (service.documentSymbols document state).2)
  count : ∀ document place state, image.references document place (f state) =
    ((service.references document place state).1, f (service.references document place state).2)
  closing : ∀ document state,
    (image.release document (f state)).2 = f (service.release document state).2
  cancelled : ∀ state, image.cancelled (f state) = service.cancelled state

/-- The scan of a file is the same, seen through a map. -/
structure FileScan.Maps {τ : Type} (f : σ → τ) (scan : FileScan σ) (image : FileScan τ) : Prop where
  status : image.status = scan.status
  findings : image.findings = scan.findings
  state : image.state = f scan.state

section Maps

variable {τ : Type} {f : σ → τ} {image : Service τ}

theorem FileScan.Maps.ended (status : Except Fault FileStatus) (state : σ) :
    (FileScan.ended status state).Maps f (.ended status (f state)) := ⟨rfl, rfl, rfl⟩

theorem FileScan.Maps.after {scan : FileScan σ} {plain : FileScan τ} (h : scan.Maps f plain)
    (findings : List Finding) (events : List Event) :
    (scan.after findings events).Maps f (plain.after findings events) :=
  ⟨h.status, congrArg (findings ++ ·) h.findings, h.state⟩

/-- A document is released, and the rest of the scan stays. -/
theorem FileScan.close_eq (service : Service σ) (document : Document) (scan : FileScan σ) :
    (scan.close service document).status = scan.status ∧
      (scan.close service document).findings = scan.findings ∧
      (scan.close service document).state = (service.release document scan.state).2 := by
  rw [FileScan.close, Service.release]
  cases service.closeDocument <;> exact ⟨rfl, rfl, rfl⟩

variable (config) (hmaps : service.Maps f image)

include hmaps

theorem FileScan.Maps.close {scan : FileScan σ} {plain : FileScan τ} (h : scan.Maps f plain)
    (document : Document) :
    (scan.close service document).Maps f (plain.close image document) := by
  obtain ⟨hstatus, hfindings, hstate⟩ := FileScan.close_eq service document scan
  obtain ⟨hstatus', hfindings', hstate'⟩ := FileScan.close_eq image document plain
  refine ⟨?_, ?_, ?_⟩
  · rw [hstatus', h.status, hstatus]
  · rw [hfindings', h.findings, hfindings]
  · rw [hstate', h.state, hmaps.closing, hstate]

theorem walk_maps (document : Document) (stack : List Symbol) (state : σ) :
    (walk config service document stack state).Maps f
      (walk config image document stack (f state)) := by
  have hgoes : ∀ {state}, ¬ service.cancelled state = true → image.cancelled (f state) = false :=
    fun hc => by rw [hmaps.cancelled]; simpa using hc
  have hanswer : ∀ {place state answer after},
      service.references document place state = (answer, after) →
        image.references document place (f state) = (answer, f after) :=
    fun h => by rw [hmaps.count, h]
  fun_induction walk config service document stack state with
  | case1 state =>
    rw [walk]
    exact .ended _ _
  | case2 symbol stack state hc =>
    rw [walk_stop ((hmaps.cancelled state).trans hc)]
    exact .ended _ _
  | case3 symbol stack state hc hv ih =>
    rw [walk_skip (hgoes hc) hv]
    exact ih
  | case4 symbol stack state hc hv ih =>
    rw [walk_descend (hgoes hc) hv]
    exact ih
  | case5 symbol stack state hc hv asked fault after ha =>
    rw [walk_fault (hgoes hc) hv (hanswer ha)]
    exact .after (.ended _ _) _ _
  | case6 symbol stack state hc hv asked count after ha ih =>
    rw [walk_count (hgoes hc) hv (hanswer ha)]
    exact ih.after _ _

theorem walkDocument_maps (document : Document) (state : σ) :
    (walkDocument config service document state).Maps f
      (walkDocument config image document (f state)) := by
  rcases ha : service.documentSymbols document state with ⟨fault | _ | outline, after⟩
  all_goals simp only [walkDocument, hmaps.outline, ha]
  · exact .after (.ended _ _) _ _
  · exact .after (.ended _ _) _ _
  · exact (walk_maps config hmaps document outline after).after _ _

theorem scanFile_maps (path : String) (state : σ) :
    (scanFile config service path state).Maps f (scanFile config image path (f state)) := by
  rcases ha : service.openDocument path state with ⟨fault | document, after⟩
  all_goals simp only [scanFile, hmaps.opening, ha]
  · exact .after (.ended _ _) _ _
  · exact ((walkDocument_maps config hmaps document after).close hmaps document).after _ _

theorem scanFiles_maps (base : String) (total : Nat) (files : List SourceFile) :
    ∀ index state,
      let run := scanFiles config base service total index files state
      let plain := scanFiles config base image total index files (f state)
      plain.outcome = run.outcome ∧ plain.notices = run.notices ∧ plain.state = f run.state := by
  induction files with
  | nil => exact fun index state => ⟨rfl, rfl, rfl⟩
  | cons file rest ih =>
    intro index state
    obtain ⟨hstatus, hfindings, hstate⟩ := scanFile_maps config hmaps file.path state
    obtain ⟨houtcome, hnotices, hlast⟩ :=
      ih (index + 1) (scanFile config service file.path state).state
    cases hc : service.cancelled state with
    | true =>
      rw [scanFiles_stopped hc, scanFiles_stopped ((hmaps.cancelled state).trans hc)]
      exact ⟨rfl, rfl, rfl⟩
    | false =>
      rw [scanFiles_cons hc, scanFiles_cons ((hmaps.cancelled state).trans hc)]
      rw [← hstate] at houtcome hnotices hlast
      refine ⟨?_, ?_, hlast⟩
      · simp only [ScanRun.after, houtcome, hstatus, hfindings]
      · simp only [ScanRun.after, hnotices, hstatus]

/-- **A scan is the same, seen through a map** of the states of its service. -/
theorem scan_maps (base : String) (files : List SourceFile) (state : σ) :
    let run := scan config base service files state
    let plain := scan config base image files (f state)
    plain.outcome = run.outcome ∧ plain.notices = run.notices ∧ plain.state = f run.state := by
  obtain ⟨houtcome, hnotices, hstate⟩ :=
    scanFiles_maps config hmaps base files.length files 1 state
  refine ⟨?_, ?_, hstate⟩
  · simp only [scan, houtcome, hstate, hmaps.cancelled]
  · simp only [scan, houtcome, hnotices]

end Maps

/-- A service that is never asked to stop does what it does when its calls are written down. -/
theorem Service.maps_watched (hnever : ∀ state, service.cancelled state = false) :
    (service.watched none).Maps Watch.state service where
  opening _ _ := rfl
  outline _ _ := rfl
  count _ _ _ := rfl
  closing _ _ := rfl
  cancelled w := hnever w.state

/-- **It makes no difference to a scan that its calls are written down**, if nobody asks to stop. -/
theorem scan_watched (config : Config) (hnever : ∀ state, service.cancelled state = false)
    (base : String) (files : List SourceFile) (state : σ) :
    let run := scan config base (service.watched none) files ⟨state, []⟩
    let plain := scan config base service files state
    plain.outcome = run.outcome ∧ plain.notices = run.notices ∧ plain.state = run.state.state :=
  scan_maps config (Service.maps_watched hnever) base files ⟨state, []⟩

end DeadSymbols
