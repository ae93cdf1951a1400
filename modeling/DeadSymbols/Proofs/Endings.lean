import DeadSymbols.Proofs.Calls

/-!
# How the scans of files end

The scan of a file ends in one of a few ways, each of which shows in its calls and their answers:
the file cannot be opened, it has no outline, a query fails, the walk comes to its end, or the
user asks to stop before a symbol. A scan of files is a list of such scans of a file.

* `WalkEnds`, `FileEnds`: how a walk and the scan of a file may end, by the calls that are made.
* `scanFile_ends`: the scan of a file ends in one of these ways.
* `Covers`, `scanFiles_covers`: the files that a scan begins, and what it says about them.
-/

namespace DeadSymbols

variable {config : Config} {σ : Type}

/-! ## The symbols that a walk comes to -/

mutual

/-- A symbol and, unless it is private, the symbols inside it, in preorder. -/
def Symbol.reached (config : Config) : Symbol → List Symbol
  | .node n k a cs =>
    .node n k a cs :: if config.isPrivate n then [] else Symbol.reachedAll config cs
termination_by structural s => s

/-- The symbols of a forest that a walk comes to: those that are not inside a private symbol, in
preorder. -/
def Symbol.reachedAll (config : Config) : List Symbol → List Symbol
  | [] => []
  | s :: rest => s.reached config ++ Symbol.reachedAll config rest
termination_by structural ss => ss

end

theorem Symbol.reached_eq (s : Symbol) : s.reached config =
    s :: if config.isPrivate s.name then [] else Symbol.reachedAll config s.children := by
  cases s; rfl

theorem Symbol.reachedAll_append (xs ys : List Symbol) :
    Symbol.reachedAll config (xs ++ ys) =
      Symbol.reachedAll config xs ++ Symbol.reachedAll config ys := by
  induction xs with
  | nil => rfl
  | cons x xs ih => simp only [List.cons_append, Symbol.reachedAll, ih, List.append_assoc]

/-- A walk comes to the first symbol on its stack, and then to those inside it if it looks there. -/
theorem Symbol.reachedAll_cons (s : Symbol) (rest : List Symbol) :
    Symbol.reachedAll config (s :: rest) =
      s :: if config.visit s = .skip then Symbol.reachedAll config rest
        else Symbol.reachedAll config (s.children ++ rest) := by
  have hskip : config.visit s = .skip ↔ config.isPrivate s.name = true := by
    unfold Config.visit
    split
    · simp [*]
    · split <;> simp [*]
  rw [Symbol.reachedAll, Symbol.reached_eq, Symbol.reachedAll_append]
  by_cases hp : config.isPrivate s.name = true
  · simp [hp, hskip]
  · simp [hp, hskip]

/-! ## Calls as events -/

/-- The event of a call. -/
def Call.event : Call → Event
  | .openDocument path _ => .openDocument path
  | .documentSymbols document _ => .documentSymbols document.path
  | .references document place _ => .references document.path place
  | .closeDocument document _ => .closeDocument document.path

/-- Queries for references to the first symbols that are asked about, with the counts in the
answers. -/
def Config.answered (config : Config) (document : Document) (stack : List Symbol)
    (counts : List (Option Nat)) : List Call :=
  ((config.queried stack).zip counts).map fun p => .references document p.1.anchor (.ok p.2)

/-- How a walk over some symbols may end, with the calls that it makes. -/
inductive WalkEnds (config : Config) (document : Document) (stack : List Symbol) :
    List Call → Except Fault FileStatus → Prop
  /-- Every symbol that is to be asked about was asked about, and there was no fault. -/
  | scanned (counts : List (Option Nat)) (hall : counts.length = (config.queried stack).length) :
    WalkEnds config document stack (config.answered document stack counts) (.ok .scanned)
  /-- The query about one symbol fails, after those before it did not. -/
  | failed (before : List Symbol) (asked : Symbol) (after : List Symbol)
    (counts : List (Option Nat)) (fault : Fault)
    (hqueried : config.queried stack = before ++ asked :: after)
    (hcounts : counts.length = before.length) :
    WalkEnds config document stack (config.answered document stack counts ++
      [.references document asked.anchor (.error fault)]) (.error fault)
  /-- The walk stops before a symbol that it would have come to. -/
  | interrupted (seen : List Symbol) (next : Symbol) (rest : List Symbol)
    (counts : List (Option Nat))
    (hreached : Symbol.reachedAll config stack = seen ++ next :: rest)
    (hcounts : counts.length = (seen.filter (config.visit · = .check)).length) :
    WalkEnds config document stack (config.answered document stack counts) (.ok .interrupted)

/-- How the scan of the file at a path may end, with the calls that it makes. -/
inductive FileEnds (config : Config) (path : String) :
    List Call → Except Fault FileStatus → Prop
  /-- The file cannot be loaded. -/
  | unloaded (fault : Fault) (hload : fault.isLoadFailure = true) :
    FileEnds config path [.openDocument path (.error fault)] (.ok .skipped)
  /-- Opening the file fails for another reason. -/
  | unopened (fault : Fault) (hload : fault.isLoadFailure = false) :
    FileEnds config path [.openDocument path (.error fault)] (.error fault)
  /-- The file has no outline. -/
  | unlisted (document : Document) (closed : Except Fault Unit) :
    FileEnds config path [.openDocument path (.ok document), .documentSymbols document (.ok none),
      .closeDocument document closed] (.ok .skipped)
  /-- The query for the outline fails. -/
  | refused (document : Document) (fault : Fault) (closed : Except Fault Unit) :
    FileEnds config path [.openDocument path (.ok document),
      .documentSymbols document (.error fault), .closeDocument document closed] (.error fault)
  /-- The outline is walked. -/
  | walked (document : Document) (outline : List Symbol) (queries : List Call)
    (status : Except Fault FileStatus) (hwalk : WalkEnds config document outline queries status)
    (closed : Except Fault Unit) :
    FileEnds config path (.openDocument path (.ok document) ::
      .documentSymbols document (.ok (some outline)) ::
      (queries ++ [.closeDocument document closed])) status

/-! ## Walks -/

namespace WalkEnds

variable {document : Document} {symbol : Symbol} {stack : List Symbol} {calls : List Call}
  {status : Except Fault FileStatus}

/-- A symbol that is not asked about comes first. -/
theorem cons_unasked {more : List Symbol} (h : WalkEnds config document more calls status)
    (hqueried : config.queried (symbol :: stack) = config.queried more)
    (hreached : Symbol.reachedAll config (symbol :: stack) =
      symbol :: Symbol.reachedAll config more)
    (hvisit : config.visit symbol ≠ .check) :
    WalkEnds config document (symbol :: stack) calls status := by
  have hanswered : ∀ counts, config.answered document more counts =
      config.answered document (symbol :: stack) counts := by
    intro counts
    rw [Config.answered, Config.answered, hqueried]
  cases h with
  | scanned counts hall =>
    rw [hanswered]
    exact .scanned counts (by rw [hqueried, hall])
  | failed before asked after counts fault hsplit hcounts =>
    rw [hanswered]
    exact .failed before asked after counts fault (by rw [hqueried, hsplit]) hcounts
  | interrupted seen next rest counts hsplit hcounts =>
    rw [hanswered]
    refine .interrupted (symbol :: seen) next rest counts (by rw [hreached, hsplit]; rfl) ?_
    rw [List.filter_cons_of_neg (by simpa using hvisit), hcounts]

/-- A symbol that is asked about comes first, and its references are counted. -/
theorem cons_asked {more : List Symbol} (h : WalkEnds config document more calls status)
    (hqueried : config.queried (symbol :: stack) = symbol :: config.queried more)
    (hreached : Symbol.reachedAll config (symbol :: stack) =
      symbol :: Symbol.reachedAll config more)
    (hvisit : config.visit symbol = .check) (count : Option Nat) :
    WalkEnds config document (symbol :: stack)
      (.references document symbol.anchor (.ok count) :: calls) status := by
  have hanswered : ∀ counts, .references document symbol.anchor (.ok count) ::
      config.answered document more counts =
        config.answered document (symbol :: stack) (count :: counts) := by
    intro counts
    rw [Config.answered, Config.answered, hqueried]
    rfl
  cases h with
  | scanned counts hall =>
    rw [hanswered]
    exact .scanned (count :: counts) (by rw [hqueried, List.length_cons, List.length_cons, hall])
  | failed before asked after counts fault hsplit hcounts =>
    rw [← List.cons_append, hanswered]
    exact .failed (symbol :: before) asked after (count :: counts) fault
      (by rw [hqueried, hsplit]; rfl) (by rw [List.length_cons, List.length_cons, hcounts])
  | interrupted seen next rest counts hsplit hcounts =>
    rw [hanswered]
    refine .interrupted (symbol :: seen) next rest (count :: counts)
      (by rw [hreached, hsplit]; rfl) ?_
    rw [List.filter_cons_of_pos (by simpa using hvisit), List.length_cons, List.length_cons,
      hcounts]

end WalkEnds

section Scans

variable (config) (service : Service σ) (stopAt : Option Nat) (document : Document)

/-- What the scan of a file, or a walk in it, adds to the calls of a watched service. -/
structure Adds (w : Watch σ) (new : List Call) (scan : FileScan (Watch σ)) : Prop where
  calls : scan.state.calls = w.calls ++ new
  events : scan.events = new.map Call.event
  interrupted : scan.status = .ok .interrupted →
    (service.watched stopAt).cancelled scan.state = true

variable {service stopAt}

/-- One more call in front. -/
theorem Adds.cons {w after : Watch σ} {call : Call} {new : List Call}
    {scan : FileScan (Watch σ)} (h : Adds service stopAt after new scan)
    (hcall : after.calls = w.calls ++ [call]) (findings : List Finding) :
    Adds service stopAt w (call :: new) (scan.after findings [call.event]) where
  calls := by
    simp only [FileScan.after, h.calls, hcall, List.append_assoc, List.singleton_append]
  events := by simp only [FileScan.after, h.events, List.singleton_append, List.map_cons]
  interrupted := h.interrupted

/-- Nothing more is done. -/
theorem Adds.ended (status : Except Fault FileStatus) (w : Watch σ)
    (h : status ≠ .ok .interrupted) : Adds service stopAt w [] (.ended status w) where
  calls := (List.append_nil _).symm
  events := rfl
  interrupted := fun hstatus => absurd hstatus h

/-- Once the user has asked to stop it stays so. -/
theorem watched_cancelled_mono {w after : Watch σ} {new : List Call}
    (hcalls : after.calls = w.calls ++ new)
    (h : (service.watched stopAt).cancelled w = true) :
    (service.watched stopAt).cancelled after = true := by
  simp only [Service.watched, Option.any_eq_true, decide_eq_true_eq] at h ⊢
  obtain ⟨k, hk, hle⟩ := h
  refine ⟨k, hk, ?_⟩
  rw [hcalls, List.length_append]
  omega

/-- A document is closed after whatever came of it. -/
theorem Adds.close {w : Watch σ} {new : List Call} {scan : FileScan (Watch σ)}
    (h : Adds service stopAt w new scan) :
    ∃ closed, Adds service stopAt w (new ++ [.closeDocument document closed])
      (scan.close (service.watched stopAt) document) := by
  refine ⟨(service.release document scan.state.state).1, ?_, ?_, fun hstatus => ?_⟩
  · rw [calls_close, h.calls, List.append_assoc]
  · show scan.events ++ [.closeDocument document.path] = _
    rw [h.events, List.map_append]
    rfl
  · exact watched_cancelled_mono (calls_close service stopAt document scan)
      (h.interrupted hstatus)

variable (service stopAt)

/-- **Walks end** in one of three ways. -/
theorem walk_ends (stack : List Symbol) (w : Watch σ) :
    let scan := walk config (service.watched stopAt) document stack w
    ∃ calls, Adds service stopAt w calls scan ∧
      WalkEnds config document stack calls scan.status := by
  fun_induction walk config (service.watched stopAt) document stack w with
  | case1 w => exact ⟨[], .ended _ w (by simp), .scanned [] rfl⟩
  | case2 symbol stack w hc =>
    refine ⟨[], ⟨(List.append_nil _).symm, rfl, fun _ => hc⟩, ?_⟩
    have hnil : config.answered document (symbol :: stack) [] = [] := by simp [Config.answered]
    rw [← hnil]
    exact .interrupted [] symbol _ [] (Symbol.reachedAll_cons symbol stack) rfl
  | case3 symbol stack w hc hv ih =>
    obtain ⟨calls, hadds, hends⟩ := ih
    refine ⟨calls, hadds, hends.cons_unasked ?_ ?_ (by simp [hv])⟩
    · rw [Config.queried_cons, hv]
    · rw [Symbol.reachedAll_cons, if_pos hv]
  | case4 symbol stack w hc hv ih =>
    obtain ⟨calls, hadds, hends⟩ := ih
    refine ⟨calls, hadds, hends.cons_unasked ?_ ?_ (by simp [hv])⟩
    · rw [Config.queried_cons, hv]
    · rw [Symbol.reachedAll_cons, if_neg (by simp [hv])]
  | case5 symbol stack w hc hv asked fault after ha =>
    -- no query was answered before this one
    have hqueried : config.queried (symbol :: stack) =
        [] ++ symbol :: config.queried (symbol.children ++ stack) := by
      rw [Config.queried_cons, hv]
      rfl
    have hnil : config.answered document (symbol :: stack) [] = [] := by simp [Config.answered]
    have hends : WalkEnds config document (symbol :: stack) _ (.error fault) :=
      .failed [] symbol _ [] fault hqueried rfl
    rw [hnil] at hends
    exact ⟨_, (Adds.ended _ after (by simp)).cons (Watch.calls_of_note ha) [], hends⟩
  | case6 symbol stack w hc hv asked count after ha ih =>
    obtain ⟨calls, hadds, hends⟩ := ih
    refine ⟨_, hadds.cons (Watch.calls_of_note ha) _, hends.cons_asked ?_ ?_ hv count⟩
    · rw [Config.queried_cons, hv]
    · rw [Symbol.reachedAll_cons, if_neg (by simp [hv])]

/-- **The scan of a file ends** in one of the ways in which it may end. -/
theorem scanFile_ends (path : String) (w : Watch σ) :
    let scan := scanFile config (service.watched stopAt) path w
    ∃ calls, Adds service stopAt w calls scan ∧ FileEnds config path calls scan.status := by
  rcases ha : (service.watched stopAt).openDocument path w with ⟨fault | document, opened⟩
  · have hopened := Watch.calls_of_note ha
    simp only [scanFile, ha]
    cases hload : fault.isLoadFailure with
    | true => exact ⟨_, (Adds.ended _ opened (by simp)).cons hopened [], .unloaded fault hload⟩
    | false => exact ⟨_, (Adds.ended _ opened (by simp)).cons hopened [], .unopened fault hload⟩
  · have hopened := Watch.calls_of_note ha
    rcases hs : (service.watched stopAt).documentSymbols document opened with
      ⟨fault | none | outline, listed⟩
    all_goals
      have hlisted := Watch.calls_of_note hs
      simp only [scanFile, ha, walkDocument, hs]
    -- the answer to the query for the outline: a fault, nothing, an outline
    · obtain ⟨closed, hadds⟩ := Adds.close document
        ((Adds.ended (.error fault) listed (by simp)).cons hlisted [])
      exact ⟨_, hadds.cons hopened [], .refused document fault closed⟩
    · obtain ⟨closed, hadds⟩ := Adds.close document
        ((Adds.ended (.ok .skipped) listed (by simp)).cons hlisted [])
      exact ⟨_, hadds.cons hopened [], .unlisted document closed⟩
    · obtain ⟨queries, hwalk, hends⟩ := walk_ends config service stopAt document outline listed
      obtain ⟨closed, hadds⟩ := Adds.close document (hwalk.cons hlisted [])
      exact ⟨_, hadds.cons hopened [], .walked document outline queries _ hends closed⟩

end Scans

/-! ## Scans of files -/

/-- The fault that ended the scan of a file, if one did. -/
def faultOf? : Except Fault FileStatus → Option Fault
  | .error fault => some fault
  | .ok _ => none

/-- A file that a scan began, the calls about it and how its scan ended. -/
structure FileRecord where
  file : SourceFile
  calls : List Call
  status : Except Fault FileStatus

namespace FileRecord

/-- Whether the scan of the file ended in some way, without a fault. -/
def hasEnded (status : FileStatus) (r : FileRecord) : Bool :=
  match r.status with
  | .ok ended => ended == status
  | .error _ => false

/-- Whether a fault ended the scan of the file. -/
def hasFailed (r : FileRecord) : Bool := (faultOf? r.status).isSome

/-- The events of file number `index` of `total`: it is announced, and then the calls are made. -/
def events (base : String) (total index : Nat) (r : FileRecord) : List Event :=
  .advance index s!"[{index}/{total}] Scanning {r.file.relativeTo base}" :: r.calls.map Call.event

theorem hasEnded_iff {status : FileStatus} {r : FileRecord} :
    r.hasEnded status = true ↔ r.status = .ok status := by
  unfold hasEnded
  cases r.status <;> simp

/-- Each file is counted in one way, but for those whose walk was interrupted. -/
theorem length_eq (records : List FileRecord) :
    records.length = records.countP (hasEnded .scanned) + records.countP (hasEnded .skipped) +
      records.countP hasFailed + records.countP (hasEnded .interrupted) := by
  induction records with
  | nil => rfl
  | cons r rest ih =>
    simp only [List.length_cons, List.countP_cons, ih]
    obtain ⟨file, calls, fault | ended⟩ := r
    · simp [hasEnded, hasFailed, faultOf?]
      omega
    · cases ended <;> simp [hasEnded, hasFailed, faultOf?] <;> omega

/-- If no walk but the last one was interrupted, it depends on that one how many were. -/
theorem countP_interrupted {records : List FileRecord}
    (h : ∀ r ∈ records.dropLast, r.hasEnded .interrupted = false) :
    records.countP (hasEnded .interrupted) =
      if records.getLast?.any (hasEnded .interrupted) then 1 else 0 := by
  rcases records.eq_nil_or_concat with rfl | ⟨before, last, rfl⟩
  · rfl
  · rw [List.concat_eq_append] at h ⊢
    rw [List.dropLast_concat] at h
    have hbefore : before.countP (hasEnded .interrupted) = 0 :=
      List.countP_eq_zero.2 fun r hr => by simp [h r hr]
    rw [List.countP_append, hbefore, List.getLast?_concat, Nat.zero_add, List.countP_singleton]
    rfl

end FileRecord

/-- What a scan of files, of which the first is number `index` of `total`, says about the files
that it begins and those that it does not. -/
structure Covers (config : Config) (base : String) (service : Service σ) (stopAt : Option Nat)
    (total index : Nat) (files : List SourceFile) (w : Watch σ) (records : List FileRecord)
    (unstarted : List SourceFile) (run : ScanRun (Watch σ)) : Prop where
  files : files = records.map FileRecord.file ++ unstarted
  ends : ∀ r ∈ records, FileEnds config r.file.path r.calls r.status
  calls : run.state.calls = w.calls ++ records.flatMap FileRecord.calls
  events : run.events = (records.zipIdx index).flatMap fun p => p.1.events base total p.2
  notices : run.notices = records.filterMap fun r =>
    (faultOf? r.status).map (.failedFile (r.file.relativeTo base))
  scanned : run.outcome.filesScanned = records.countP (FileRecord.hasEnded .scanned)
  skipped : run.outcome.filesSkipped = records.countP (FileRecord.hasEnded .skipped)
  failed : run.outcome.filesFailed = records.countP FileRecord.hasFailed
  /-- No file but the last one was interrupted. -/
  finished : ∀ r ∈ records.dropLast, r.hasEnded .interrupted = false
  /-- If a file was interrupted or not begun, the user has asked to stop. -/
  stopped : records.any (FileRecord.hasEnded .interrupted) = true ∨ unstarted ≠ [] →
    (service.watched stopAt).cancelled run.state = true

namespace Covers

variable {base : String} {service : Service σ} {stopAt : Option Nat} {total index : Nat}
  {files unstarted : List SourceFile} {w : Watch σ} {records : List FileRecord}
  {run : ScanRun (Watch σ)}

/-- The scan of one more file in front. -/
theorem cons {file : SourceFile} {new : List Call} {one : FileScan (Watch σ)}
    (hadds : Adds service stopAt w new one) (hends : FileEnds config file.path new one.status)
    (h : Covers config base service stopAt total (index + 1) files one.state records unstarted run)
    (hrest : (service.watched stopAt).cancelled one.state = true → records = []) :
    Covers config base service stopAt total index (file :: files) w
      (⟨file, new, one.status⟩ :: records) unstarted (run.after (file.relativeTo base)
        (.advance index s!"[{index}/{total}] Scanning {file.relativeTo base}") one) where
  files := by rw [h.files]; rfl
  ends := List.forall_mem_cons.2 ⟨hends, h.ends⟩
  calls := by
    show run.state.calls = _
    rw [h.calls, hadds.calls, List.flatMap_cons, List.append_assoc]
  events := by
    rw [List.zipIdx_cons, List.flatMap_cons, ← h.events]
    simp only [ScanRun.after, FileRecord.events, hadds.events, List.cons_append]
  notices := by
    show failureNotices _ one.status ++ run.notices = _
    rw [List.filterMap_cons, ← h.notices]
    cases one.status <;> rfl
  scanned := by
    show (run.outcome.count one.status).filesScanned = _
    rw [List.countP_cons, ← h.scanned]
    rcases one.status with fault | _ | _ | _ <;> rfl
  skipped := by
    show (run.outcome.count one.status).filesSkipped = _
    rw [List.countP_cons, ← h.skipped]
    rcases one.status with fault | _ | _ | _ <;> rfl
  failed := by
    show (run.outcome.count one.status).filesFailed = _
    rw [List.countP_cons, ← h.failed]
    rcases one.status with fault | _ | _ | _ <;> rfl
  finished := by
    cases records with
    | nil => exact fun r hr => absurd hr List.not_mem_nil
    | cons next rest =>
      refine List.forall_mem_cons.2 ⟨?_, h.finished⟩
      -- after a walk that is interrupted no file is begun
      rw [← Bool.not_eq_true, FileRecord.hasEnded_iff]
      intro hstatus
      cases hrest (hadds.interrupted hstatus)
  stopped := by
    rw [List.any_cons, Bool.or_eq_true, FileRecord.hasEnded_iff, or_assoc]
    rintro (hone | hmore)
    · exact watched_cancelled_mono h.calls (hadds.interrupted hone)
    · exact h.stopped hmore

/-- Nothing is scanned: there is no file, or the user has asked to stop. -/
theorem nil (h : files ≠ [] → (service.watched stopAt).cancelled w = true) :
    Covers config base service stopAt total index files w [] files ⟨{}, [], [], w⟩ where
  files := rfl
  ends := fun r hr => absurd hr List.not_mem_nil
  calls := (List.append_nil _).symm
  events := rfl
  notices := rfl
  scanned := rfl
  skipped := rfl
  failed := rfl
  finished := fun r hr => absurd hr List.not_mem_nil
  stopped := fun hor => h (hor.resolve_left (by simp))

/-- If nobody asks to stop, all files are begun. -/
theorem unstarted_eq_nil
    (h : Covers config base service none total index files w records unstarted run) :
    unstarted = [] := by
  cases unstarted with
  | nil => rfl
  | cons file rest => cases h.stopped (.inr (List.cons_ne_nil _ _))

end Covers

/-- **A scan of files is the scans of the files that it begins**, in the order of the files. -/
theorem scanFiles_covers (config : Config) (base : String) (service : Service σ)
    (stopAt : Option Nat) (total : Nat) (files : List SourceFile) :
    ∀ (index : Nat) (w : Watch σ), ∃ records unstarted,
      Covers config base service stopAt total index files w records unstarted
        (scanFiles config base (service.watched stopAt) total index files w) := by
  induction files with
  | nil => exact fun index w => ⟨[], [], .nil fun h => absurd rfl h⟩
  | cons file rest ih =>
    intro index w
    rcases hc : (service.watched stopAt).cancelled w with _ | _
    · obtain ⟨new, hadds, hends⟩ := scanFile_ends config service stopAt file.path w
      obtain ⟨records, unstarted, hrest⟩ :=
        ih (index + 1) (scanFile config (service.watched stopAt) file.path w).state
      rw [scanFiles_cons hc]
      refine ⟨_, unstarted, .cons hadds hends hrest fun hstop => ?_⟩
      -- no file is begun after the user has asked to stop
      have hevents := hrest.events
      rw [scanFiles_stopped hstop] at hevents
      cases records with
      | nil => rfl
      | cons r records => cases hevents
    · rw [scanFiles_stopped hc]
      exact ⟨[], file :: rest, .nil fun _ => hc⟩

end DeadSymbols
