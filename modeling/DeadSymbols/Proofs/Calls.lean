import DeadSymbols.Proofs.Preorder
import DeadSymbols.Scan.Run
import DeadSymbols.Service.Table

/-!
# The calls of a scan

A service can be watched: its calls are written down with their answers, and the user asks to stop
during a call that is chosen beforehand. What a scan finds can then be read off its calls.

* `Service.watched`: a service that is watched.
* `Config.justified`: the findings that follow from calls and their answers.
* `scanFiles_append`: a scan of files in two parts.
* `scanFiles_calls`: a scan has the findings that its calls justify, whenever the user asks to stop.
-/

namespace DeadSymbols

/-- A call of a service with its answer. -/
inductive Call where
  | openDocument (path : String) (answer : Except Fault Document)
  | documentSymbols (document : Document) (answer : Except Fault (Option (List Symbol)))
  | references (document : Document) (place : Position) (answer : Except Fault (Option Nat))
  | closeDocument (document : Document) (answer : Except Fault Unit)

/-- The state of a service that is watched, and the calls that were made. -/
structure Watch (σ : Type) where
  state : σ
  calls : List Call := []

variable {σ : Type}

/-- Writes down a call with its answer. -/
def Watch.note {α : Type} (call : α → Call) (answer : α × σ) (watch : Watch σ) : α × Watch σ :=
  (answer.1, ⟨answer.2, watch.calls ++ [call answer.1]⟩)

theorem Watch.calls_of_note {α : Type} {call : α → Call} {answer : α × σ}
    {w after : Watch σ} {a : α}
    (h : w.note call answer = (a, after)) : after.calls = w.calls ++ [call a] := by
  cases h; rfl

namespace Service

/-- Releases a document. A service that does not want to be told does nothing. -/
def release (service : Service σ) (document : Document) (state : σ) : Except Fault Unit × σ :=
  match service.closeDocument with
  | none => (.ok (), state)
  | some close => close document state

/-- A service of which the calls are written down. The user asks to stop during call number
`stopAt`, before the first call if that is 0, and never if there is no number. There are no other
moments: a scan shares its thread with what hears the user, and gives it up only during a call. -/
def watched (service : Service σ) (stopAt : Option Nat) : Service (Watch σ) where
  openDocument path w := w.note (.openDocument path) (service.openDocument path w.state)
  documentSymbols document w :=
    w.note (.documentSymbols document) (service.documentSymbols document w.state)
  references document place w :=
    w.note (.references document place) (service.references document place w.state)
  closeDocument := some fun document w =>
    w.note (.closeDocument document) (service.release document w.state)
  cancelled w := stopAt.any (· ≤ w.calls.length)

end Service

namespace Config

/-- The symbols that are still to be asked about after a call. -/
def pendingAfter (config : Config) (pending : List Symbol) : Call → List Symbol
  | .documentSymbols _ (.ok (some outline)) => config.queried outline
  | .references _ _ _ => pending.tail
  | _ => []

/-- The findings that a call justifies. The answer to a query is about the first symbol that is
still to be asked about. -/
def justifiedBy (config : Config) (pending : List Symbol) : Call → List Finding
  | .references document _ (.ok count) =>
    pending.head?.toList.flatMap fun symbol => config.findings symbol document.path count
  | _ => []

/-- The findings that calls justify, if `pending` are the symbols still to be asked about. -/
def justified (config : Config) (pending : List Symbol) : List Call → List Finding
  | [] => []
  | call :: calls =>
    config.justifiedBy pending call ++ config.justified (config.pendingAfter pending call) calls

end Config

variable {config : Config}

namespace Config

theorem justified_append (pending : List Symbol) (xs ys : List Call) :
    config.justified pending (xs ++ ys) =
      config.justified pending xs ++
        config.justified (xs.foldl config.pendingAfter pending) ys := by
  induction xs generalizing pending with
  | nil => rfl
  | cons x xs ih => simp only [List.cons_append, justified, ih, List.foldl_cons, List.append_assoc]

/-- Calls that are no queries justify nothing. -/
theorem justified_eq_nil {calls : List Call}
    (h : ∀ call ∈ calls, ∀ document place answer, call ≠ .references document place answer) :
    ∀ pending : List Symbol, config.justified pending calls = [] := by
  induction calls with
  | nil => intro pending; rfl
  | cons call calls ih =>
    intro pending
    rw [justified, ih fun c hc => h c (List.mem_cons_of_mem _ hc), List.append_nil]
    cases call with
    | references document place answer =>
      exact absurd rfl (h _ List.mem_cons_self document place answer)
    | _ => rfl

end Config

/-- The calls that the scan of one file makes: an open that fails, or an open that succeeds, the
query for the outline, queries for references and a close, all about the same document. -/
inductive FileCalls (path : String) : List Call → Prop
  | failed (fault : Fault) : FileCalls path [.openDocument path (.error fault)]
  | opened (document : Document) (outline : Except Fault (Option (List Symbol)))
      (queries : List Call)
      (hqueries : ∀ call ∈ queries, ∃ place answer, call = .references document place answer)
      (closed : Except Fault Unit) :
      FileCalls path (.openDocument path (.ok document) :: .documentSymbols document outline ::
        (queries ++ [.closeDocument document closed]))

/-- After the calls about a file no symbols are left to be asked about. -/
theorem FileCalls.pendingAfter {path : String} {calls : List Call} (h : FileCalls path calls)
    (pending : List Symbol) : calls.foldl config.pendingAfter pending = [] := by
  cases h with
  | failed fault => rfl
  | opened document outline queries hqueries closed =>
    simp only [List.foldl_cons, List.foldl_append, List.foldl_nil]
    rfl

/-! ## The calls of walks and scans -/

variable (config) (service : Service σ) (stopAt : Option Nat) (document : Document)

/-- A walk only asks for references to symbols of its document. -/
theorem walk_calls (stack : List Symbol) (w : Watch σ) :
    let scan := walk config (service.watched stopAt) document stack w
    ∃ new, scan.state.calls = w.calls ++ new ∧
      (∀ call ∈ new, ∃ place answer, call = .references document place answer) ∧
      scan.findings = config.justified (config.queried stack) new := by
  fun_induction walk config (service.watched stopAt) document stack w with
  | case1 w => exact ⟨[], by simp [FileScan.ended], by simp, rfl⟩
  | case2 symbol stack w hc => exact ⟨[], by simp [FileScan.ended], by simp, rfl⟩
  | case3 symbol stack w hc hv ih => rw [Config.queried_cons, hv]; exact ih
  | case4 symbol stack w hc hv ih => rw [Config.queried_cons, hv]; exact ih
  | case5 symbol stack w hc hv asked fault after ha =>
    rw [Config.queried_cons, hv]
    exact ⟨[_], Watch.calls_of_note ha, by simp, rfl⟩
  | case6 symbol stack w hc hv asked count after ha ih =>
    -- the count justifies the finding about the first symbol that is asked about
    rw [Config.queried_cons, hv]
    obtain ⟨new, hnew, hrefs, hfound⟩ := ih
    refine ⟨.references document symbol.anchor (.ok count) :: new, ?_, by simpa using hrefs, ?_⟩
    · simp only [FileScan.after, hnew, Watch.calls_of_note ha, List.append_assoc,
        List.singleton_append]
    · simp [FileScan.after, hfound, Config.justified, Config.justifiedBy, Config.pendingAfter]

/-- The walk of a document starts with the query for its outline. -/
theorem walkDocument_calls (w : Watch σ) :
    let scan := walkDocument config (service.watched stopAt) document w
    ∃ answer new, scan.state.calls = w.calls ++ .documentSymbols document answer :: new ∧
      (∀ call ∈ new, ∃ place answer, call = .references document place answer) ∧
      scan.findings = config.justified [] (.documentSymbols document answer :: new) := by
  rcases ha : (service.watched stopAt).documentSymbols document w with ⟨answer, after⟩
  have hafter := Watch.calls_of_note ha
  rcases answer with fault | outline | outline
  · exact ⟨.error fault, [], by simp [walkDocument, ha, FileScan.after, FileScan.ended, hafter],
      by simp, by simp [walkDocument, ha, FileScan.after, FileScan.ended]; rfl⟩
  · exact ⟨.ok none, [], by simp [walkDocument, ha, FileScan.after, FileScan.ended, hafter],
      by simp, by simp [walkDocument, ha, FileScan.after, FileScan.ended]; rfl⟩
  · obtain ⟨new, hnew, hrefs, hfound⟩ := walk_calls config service stopAt document outline after
    refine ⟨.ok (some outline), new, ?_, hrefs, ?_⟩
    · simp only [walkDocument, ha, FileScan.after, hnew, hafter, List.append_assoc,
        List.singleton_append]
    · simp only [walkDocument, ha, FileScan.after, hfound, List.nil_append]
      rfl

/-- A document that is watched is always closed, whatever comes of it. -/
theorem calls_close (scan : FileScan (Watch σ)) :
    (scan.close (service.watched stopAt) document).state.calls = scan.state.calls ++
      [.closeDocument document (service.release document scan.state.state).1] :=
  rfl

/-- What a file is asked about, and what is found in it. -/
theorem scanFile_calls (path : String) (w : Watch σ) :
    let scan := scanFile config (service.watched stopAt) path w
    ∃ new, scan.state.calls = w.calls ++ new ∧ FileCalls path new ∧
      scan.findings = config.justified [] new := by
  rcases ha : (service.watched stopAt).openDocument path w with ⟨fault | document, after⟩
  · have hafter := Watch.calls_of_note ha
    exact ⟨_, by simp [scanFile, ha, FileScan.after, FileScan.ended, hafter], .failed fault,
      by simp [scanFile, ha, FileScan.after, FileScan.ended]; rfl⟩
  · have hafter := Watch.calls_of_note ha
    obtain ⟨answer, new, hnew, hrefs, hfound⟩ := walkDocument_calls config service
      stopAt document after
    have hclose := calls_close service stopAt document
      (walkDocument config (service.watched stopAt) document after)
    refine ⟨_, ?_, .opened document answer new hrefs (service.release document
      (walkDocument config (service.watched stopAt) document after).state.state).1, ?_⟩
    · simp only [scanFile, ha, FileScan.after, hclose, hnew, hafter, List.append_assoc,
        List.cons_append, List.nil_append]
    -- neither the open nor the close justifies anything
    · simp only [scanFile, ha, FileScan.after, List.nil_append]
      refine hfound.trans ?_
      simp [Config.justified, Config.justified_append, Config.justifiedBy, Config.pendingAfter]

/-- Once the user has asked to stop, no further file is scanned. -/
theorem scanFiles_stopped {config : Config} {service : Service σ} {state : σ}
    (h : service.cancelled state = true)
    (base : String) (total index : Nat) (files : List SourceFile) :
    scanFiles config base service total index files state = ⟨{}, [], [], state⟩ := by
  cases files with
  | nil => rfl
  | cons file rest => rw [scanFiles, if_pos h]

/-- Until then each file is scanned in turn. -/
theorem scanFiles_cons {config : Config} {service : Service σ} {state : σ}
    (h : service.cancelled state = false)
    (base : String) (total index : Nat) (file : SourceFile) (rest : List SourceFile) :
    let one := scanFile config service file.path state
    scanFiles config base service total index (file :: rest) state =
      (scanFiles config base service total (index + 1) rest one.state).after (file.relativeTo base)
        (.advance index s!"[{index}/{total}] Scanning {file.relativeTo base}") one := by
  rw [scanFiles, if_neg (by simp [h])]

/-- One scan and another one that goes on where it ended. -/
def ScanRun.followedBy (first next : ScanRun σ) : ScanRun σ where
  outcome :=
    { next.outcome with
      findings := first.outcome.findings ++ next.outcome.findings
      filesScanned := first.outcome.filesScanned + next.outcome.filesScanned
      filesSkipped := first.outcome.filesSkipped + next.outcome.filesSkipped
      filesFailed := first.outcome.filesFailed + next.outcome.filesFailed }
  events := first.events ++ next.events
  notices := first.notices ++ next.notices
  state := next.state

/-- A file in front of two scans is one in front of the first. -/
theorem ScanRun.after_followedBy (relative : String) (announced : Event) (file : FileScan σ)
    (first next : ScanRun σ) :
    (first.after relative announced file).followedBy next =
      (first.followedBy next).after relative announced file := by
  simp only [followedBy, after, List.append_assoc, List.cons_append]
  cases file.status with
  | error fault => simp only [Outcome.count, Nat.add_right_comm]
  | ok status => cases status <;> simp only [Outcome.count, Nat.add_right_comm]

/-- **The scan of some files and others after them** is the scan of the first, followed by that of
the others. -/
theorem scanFiles_append {config : Config} {service : Service σ}
    (h : ∀ state, service.cancelled state = false) (base : String) (total : Nat)
    (before rest : List SourceFile) (index : Nat) (state : σ) :
    let first := scanFiles config base service total index before state
    scanFiles config base service total index (before ++ rest) state =
      first.followedBy (scanFiles config base service total (index + before.length) rest
        first.state) := by
  induction before generalizing index state with
  | nil =>
    simp only [scanFiles, ScanRun.followedBy, List.nil_append, List.length_nil, Nat.add_zero,
      Nat.zero_add]
  | cons file before ih =>
    intro first
    have hfirst : first = (scanFiles config base service total (index + 1) before
        (scanFile config service file.path state).state).after (file.relativeTo base)
          (.advance index s!"[{index}/{total}] Scanning {file.relativeTo base}")
          (scanFile config service file.path state) :=
      scanFiles_cons (h state) base total index file before
    have hindex : index + 1 + before.length = index + (before.length + 1) := by omega
    rw [hfirst, ScanRun.after_followedBy, List.cons_append, scanFiles_cons (h state), ih, hindex]
    rfl

/-- **The findings of a scan are those that its calls justify**, whenever the user asks to stop. -/
theorem scanFiles_calls (base : String) (total : Nat) (files : List SourceFile) :
    ∀ (index : Nat) (w : Watch σ),
      let run := scanFiles config base (service.watched stopAt) total index files w
      ∃ new, run.state.calls = w.calls ++ new ∧
        run.outcome.findings = config.justified [] new := by
  induction files with
  | nil => intro index w; exact ⟨[], by simp [scanFiles], rfl⟩
  | cons file rest ih =>
    intro index w
    rcases hc : (service.watched stopAt).cancelled w with _ | _
    · obtain ⟨one, hone, hblock, hfound⟩ := scanFile_calls config service stopAt file.path
        w
      obtain ⟨more, hmore, hrest⟩ := ih (index + 1)
        (scanFile config (service.watched stopAt) file.path w).state
      rw [scanFiles_cons hc]
      refine ⟨one ++ more, ?_, ?_⟩
      · rw [← List.append_assoc, ← hone]; exact hmore
      -- no symbol of this file is still to be asked about in the next one
      · rw [Config.justified_append, hblock.pendingAfter, ← hfound, ← hrest]; rfl
    · rw [scanFiles_stopped hc]
      exact ⟨[], by simp, rfl⟩

/-! ## A scan with troubles -/

/-- Three files of two methods each: the query about the second method of the first file fails, the
second file cannot be loaded, and about the third one there is nothing to complain of. -/
def troubledAnswers (path : String) : FileAnswers where
  loading := if path = "/b.dart" then some (.load path .notFound) else none
  outline := .ok (some [.node "open" ⟨6⟩ ⟨0, 2⟩ [], .node "shut" ⟨6⟩ ⟨1, 2⟩ []])
  references place := if path = "/a.dart" ∧ place.line = 1 then .error .closed else .ok (some 1)

def troubledFiles : List SourceFile := [⟨"/a.dart", "/"⟩, ⟨"/b.dart", "/"⟩, ⟨"/c.dart", "/"⟩]

/-- The scan of these files, in which the user may ask to stop during a call. -/
def troubledScan (stopAt : Option Nat) : ScanRun (Watch CallCount) :=
  scan {} "/" ((table troubledAnswers true).watched stopAt) troubledFiles ⟨{}, []⟩

end DeadSymbols
