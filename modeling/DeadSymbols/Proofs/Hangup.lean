import DeadSymbols.Proofs.Course
import DeadSymbols.Proofs.Outage
import DeadSymbols.Proofs.Output
import DeadSymbols.Proofs.Transcript

/-!
# Connections that break

The output of a server may end or have a fault, and a server may take no more messages. From then on
every request fails at once, and a scan finds nothing more.

* `Client.perform_waited`: what a call consumes.
* `Client.perform_ended`, `Client.perform_deaf`: calls over a connection that is broken.
* `Client.outage`: a client whose connection is broken is out of order as a service.
* `Client.scan_givesUp`: what a scan says once the connection is lost.
* `Client.hangup_lasts`: a connection that is broken stays broken.
-/

namespace DeadSymbols

/-! ## Calls -/

namespace Answer

/-- The fault in an answer. -/
def fault? : Answer → Option Fault
  | .value (.error fault) | .nothing (.error fault) | .document (.error fault)
  | .outline (.error fault) | .count (.error fault) => some fault
  | _ => none

variable {fault : Fault}

@[simp]
theorem fault?_value {r : Except Fault Json} :
    (value r).fault? = some fault ↔ r = .error fault := by
  cases r <;> simp [fault?]

@[simp]
theorem fault?_nothing {r : Except Fault Unit} :
    (nothing r).fault? = some fault ↔ r = .error fault := by
  cases r <;> simp [fault?]

@[simp]
theorem fault?_document {r : Except Fault Document} :
    (document r).fault? = some fault ↔ r = .error fault := by
  cases r <;> simp [fault?]

@[simp]
theorem fault?_outline {r : Except Fault (Option (List Symbol))} :
    (outline r).fault? = some fault ↔ r = .error fault := by
  cases r <;> simp [fault?]

@[simp]
theorem fault?_count {r : Except Fault (Option Nat)} :
    (count r).fault? = some fault ↔ r = .error fault := by
  cases r <;> simp [fault?]

end Answer

namespace Session

variable {σ : Type} {peer : Peer σ} {s t : Session σ}

/-- Who only tells a silent server something consumes nothing. -/
theorem Tells.same (h : s.Tells peer t) (hsilent : peer.IsSilent) :
    t.incoming = s.incoming ∧ s.atHand ≤ t.atHand := by
  induction h with
  | refl => exact ⟨rfl, Nat.le_refl _⟩
  | read _ ih => exact ⟨ih.1, Nat.le_trans ih.2 (Nat.le_max_left _ _)⟩
  | @notify u _ method params ih =>
    rcases send_silent hsilent (Message.notification method params) u with
      ⟨-, hsend⟩ | ⟨-, p, ⟨cause, -, hsend⟩ | ⟨-, hsend⟩⟩
    all_goals
      rw [Session.notify, hsend]
      exact ih

theorem Ended.of_same (h : s.Ended) (hincoming : t.incoming = s.incoming)
    (hatHand : s.atHand ≤ t.atHand) : t.Ended := by
  obtain ⟨a, rest, harrivals, hitem, htime⟩ := h
  exact ⟨a, rest, hincoming.trans harrivals, hitem, Nat.lt_of_lt_of_le htime hatHand⟩

end Session

namespace Client

open Session

variable {σ : Type} (client : Client σ)

/-- The faults that are consumed during a call. -/
def faults (call : ClientCall) (s : Session σ) : List Fault :=
  (client.exchange? call s).toList.flatMap fun e => faultsOf e.consumed

/-- By a call the client learns that nothing more will come: it consumes a fault, or is told that the
connection is closed. -/
def Learns (call : ClientCall) (s : Session σ) : Prop :=
  client.faults call s ≠ [] ∨ (client.answer call s).fault? = some .closed

/-- A call fails at once: nothing is consumed for it, and no time passes. -/
structure FailsAtOnce (call : ClientCall) (s : Session σ) (fault : Fault) : Prop where
  answer : (client.answer call s).fault? = some fault
  incoming : (client.perform call s).incoming = s.incoming
  clock : (client.perform call s).clock = s.clock

/-- Whether a call has something to say to the server. An open has if the file can be loaded, and a
handshake if the folder has a URI. -/
def speaks : ClientCall → Bool
  | .handshake root _ => (Uri.ofFolder? root).isSome
  | .openDocument path => (client.uriOf? path).isSome
  | _ => true

variable {client} {s : Session σ}

theorem andThen_error {α β : Type} {exchange : Except Fault α × Session σ}
    {next : α → Session σ → Except Fault β × Session σ} {fault : Fault}
    (h : (andThen exchange next).1 = .error fault) :
    exchange.1 = .error fault ∨ ∃ a t, exchange = (.ok a, t) ∧ (next a t).1 = .error fault := by
  rcases exchange with ⟨fault' | a, t⟩
  · cases h
    exact .inl rfl
  · exact .inr ⟨a, t, rfl, h⟩

/-- The fault of a request is that of the call, which goes no further. -/
theorem answer_of_request {call : ClientCall} {limit : Option Nat} {method : String} {params : Json}
    {fault : Fault} {t : Session σ} (hcall : client.requestOf? call = some (limit, method, params))
    (h : s.requestWithin client.peer limit method params = (.error fault, t)) :
    (client.answer call s).fault? = some fault ∧ client.perform call s = t := by
  cases call with
  | handshake root options =>
    cases huri : Uri.ofFolder? root with
    | none => simp [requestOf?, huri] at hcall
    | some uri =>
      simp only [requestOf?, huri, Option.map_some, Option.some.injEq, Prod.mk.injEq] at hcall
      obtain ⟨rfl, rfl, rfl⟩ := hcall
      simp only [answer, perform, handshake, huri, request, h]
      exact ⟨rfl, rfl⟩
  | request method params =>
    cases hcall
    rw [answer, perform, show client.request method params s = _ from h]
    exact ⟨rfl, rfl⟩
  | documentSymbols document =>
    cases hcall
    simp only [answer, perform, documentSymbols, request, h]
    exact ⟨rfl, rfl⟩
  | references document position =>
    cases hcall
    simp only [answer, perform, references, locations, request, h]
    exact ⟨rfl, rfl⟩
  | shutdown =>
    cases hcall
    simp only [answer, perform, shutdown, h]
    exact ⟨rfl, rfl⟩
  | _ => cases hcall

theorem notify_ne_closed {method : String} {params : Json} {s : Session σ} :
    (client.notify method params s).1 ≠ .error .closed :=
  fun h => (send_isOther h).2 rfl

/-- Only a request is told that the connection is closed. -/
theorem request_of_closed {call : ClientCall}
    (h : (client.answer call s).fault? = some .closed) :
    ∃ limit method params, client.requestOf? call = some (limit, method, params) ∧
      (s.requestWithin client.peer limit method params).1 = .error .closed := by
  cases call with
  | handshake root options =>
    rw [answer, Answer.fault?_value, handshake] at h
    cases huri : Uri.ofFolder? root with
    | none =>
      rw [huri] at h
      cases h
    | some uri =>
      rw [huri] at h
      refine ⟨_, _, _, by rw [requestOf?, huri]; rfl, ?_⟩
      rcases andThen_error h with h | ⟨result, t, -, h⟩
      · exact h
      · rcases andThen_error h with h | ⟨_, u, -, h⟩
        · exact absurd h notify_ne_closed
        · cases h
  | request method params =>
    rw [answer, Answer.fault?_value] at h
    exact ⟨_, _, _, rfl, h⟩
  | notify method params =>
    rw [answer, Answer.fault?_nothing] at h
    exact absurd h notify_ne_closed
  | openDocument path =>
    rw [answer, Answer.fault?_document, openDocument] at h
    cases hpath : Document.ofPath path with
    | error fault =>
      rw [hpath] at h
      cases h
      cases Document.isLoadFailure_of_ofPath hpath
    | ok document =>
      rw [hpath] at h
      dsimp only at h
      split at h
      · cases h
      · split at h
        · cases h
        · rcases andThen_error h with h | ⟨_, t, -, h⟩
          · exact absurd h notify_ne_closed
          · cases h
  | documentSymbols document =>
    rw [answer, Answer.fault?_outline] at h
    refine ⟨_, _, _, rfl, ?_⟩
    rcases andThen_error h with h | ⟨result, t, -, h⟩
    · exact h
    · unfold decoded at h
      split at h <;> cases h
  | references document position =>
    rw [answer, Answer.fault?_count] at h
    refine ⟨_, _, _, rfl, ?_⟩
    rcases andThen_error h with h | ⟨found, t, -, h⟩
    · rcases andThen_error h with h | ⟨result, t, -, h⟩
      · exact h
      · unfold decoded at h
        split at h <;> cases h
    · cases h
  | closeDocument document =>
    rw [answer, Answer.fault?_nothing] at h
    exact absurd h notify_ne_closed
  | shutdown =>
    rw [answer, Answer.fault?_nothing] at h
    refine ⟨_, _, _, rfl, ?_⟩
    rcases andThen_error h with h | ⟨result, t, -, h⟩
    · exact h
    · exact absurd h notify_ne_closed

/-! ## Calls over a broken connection -/

section Silent

variable (hsilent : client.peer.IsSilent)

include hsilent

/-- **What a call consumes** are messages up to the fault or the end of the output. A fault that is
consumed is the answer. -/
theorem perform_waited (call : ClientCall) (h : IsOutput s.incoming) :
    let t := client.perform call s
    IsOutput t.incoming ∧
      (client.faults call s = [] ∨ ∃ cause, client.faults call s = [cause] ∧
        (client.answer call s).fault? = some cause) ∧
      (∀ e ∈ client.exchange? call s, ∀ cause, e.result = .error cause → cause.IsDecoding →
        client.faults call s = [cause]) ∧
      (client.Learns call s → t.Ended) := by
  intro t
  cases hcall : client.requestOf? call with
  | none =>
    have hnone := exchange?_eq_none hcall s
    obtain ⟨hincoming, -⟩ := (perform_tells hcall s).same hsilent
    have hfaults : client.faults call s = [] := by rw [faults, hnone]; rfl
    refine ⟨hincoming ▸ h, .inl hfaults, fun e he => ?_, fun hlearns => ?_⟩
    · rw [hnone] at he
      cases he
    · rcases hlearns with hsome | hclosed
      · exact absurd hfaults hsome
      · obtain ⟨_, _, _, hsome, -⟩ := request_of_closed hclosed
        rw [hcall] at hsome
        cases hsome
  | some request =>
    obtain ⟨limit, method, params⟩ := request
    obtain ⟨consumed, hwaited⟩ := requestWithin_waited hsilent limit method params h
    obtain ⟨hincoming, hatHand⟩ := (tells_after_request hcall s).same hsilent
    have hexchange := exchange?_eq_some hcall s
    have hfaults : client.faults call s = faultsOf consumed := by
      rw [faults, hexchange, ← exchange_consumed hwaited.split]
      exact List.append_nil _
    refine ⟨hincoming ▸ hwaited.output, ?_, fun e he cause hcause => ?_, fun hlearns => ?_⟩
    · rw [hfaults]
      refine hwaited.faults.imp_right fun ⟨cause, hfault, hresult, _⟩ => ⟨cause, hfault, ?_⟩
      exact (answer_of_request hcall (Prod.ext hresult rfl)).1
    · rw [hexchange] at he
      cases he
      rw [hfaults]
      exact hwaited.decoding cause hcause
    · have hended : (s.requestWithin client.peer limit method params).2.Ended := by
        rcases hlearns with hsome | hclosed
        · rw [hfaults] at hsome
          rcases hwaited.faults with hnone | ⟨cause, -, -, hended⟩
          · exact absurd hnone hsome
          · exact hended
        · obtain ⟨_, _, _, hsome, hresult⟩ := request_of_closed hclosed
          rw [hcall] at hsome
          cases hsome
          exact hwaited.closed hresult
      exact hended.of_same hincoming hatHand

/-- **After the end** nothing is consumed, and a request fails at once. -/
theorem perform_ended (call : ClientCall) (h : s.Ended) :
    (client.perform call s).Ended ∧ client.faults call s = [] ∧
      ∀ limit method params, client.requestOf? call = some (limit, method, params) →
        s.isAbandoned = false → client.FailsAtOnce call s
          (s.refusal client.peer (Message.request s.nextId method params)) := by
  cases hcall : client.requestOf? call with
  | none =>
    obtain ⟨hincoming, hatHand⟩ := (perform_tells hcall s).same hsilent
    refine ⟨h.of_same hincoming hatHand, ?_, fun _ _ _ hsome => nomatch hsome⟩
    rw [faults, exchange?_eq_none hcall]
    rfl
  | some request =>
    obtain ⟨limit, method, params⟩ := request
    obtain ⟨hincoming, hclock, hatHand, hresult⟩ :=
      requestWithin_ended hsilent limit method params h
    obtain ⟨hincoming', hatHand'⟩ := (tells_after_request hcall s).same hsilent
    refine ⟨h.of_same (hincoming'.trans hincoming) (hatHand ▸ hatHand'), ?_, ?_⟩
    · have hnone : (s.exchange client.peer limit method params).consumed = [] :=
        exchange_consumed (by rw [hincoming]; rfl)
      rw [faults, exchange?_eq_some hcall]
      simp [hnone, faultsOf]
    · intro limit' method' params' hsome habandoned
      cases hsome
      obtain ⟨hanswer, hperform⟩ := answer_of_request hcall (Prod.ext (hresult habandoned) rfl)
      exact ⟨hanswer, hperform ▸ hincoming, hperform ▸ hclock⟩

end Silent

/-- The first message of a call is not written, and the call goes no further. -/
theorem deaf_of_answer {call : ClientCall} {fault : Fault} {p : σ} {t : Session σ}
    (hanswer : (client.answer call s).fault? = some fault)
    (hperform : client.perform call s = { t with peer := p }) (hincoming : t.incoming = s.incoming)
    (hclock : t.clock = s.clock) (hdeaf : client.peer.IsDeaf p)
    (hcause : s.isAbandoned = false → ∃ cause, fault = .io cause) :
    client.peer.IsDeaf (client.perform call s).peer ∧
      (client.speaks call = true → s.isAbandoned = false →
        ∃ cause, client.FailsAtOnce call s (.io cause)) := by
  refine ⟨hperform ▸ hdeaf, fun _ habandoned => ?_⟩
  obtain ⟨cause, rfl⟩ := hcause habandoned
  exact ⟨cause, hanswer, hperform ▸ hincoming, hperform ▸ hclock⟩

/-- **A deaf server** stays deaf, and a call that has something to say to it fails at once. -/
theorem perform_deaf (call : ClientCall) (h : client.peer.IsDeaf s.peer) :
    client.peer.IsDeaf (client.perform call s).peer ∧
      (client.speaks call = true → s.isAbandoned = false →
        ∃ cause, client.FailsAtOnce call s (.io cause)) := by
  have hnotify : ∀ (t : Session σ) (method : String) (params : Json), t.peer = s.peer →
      ∃ fault p, client.notify method params t = (.error fault, { t with peer := p }) ∧
        client.peer.IsDeaf p ∧ (t.isAbandoned = false → ∃ cause, fault = .io cause) :=
    fun t method params hpeer => send_deaf (hpeer ▸ h) _
  cases hcall : client.requestOf? call with
  | some request =>
    obtain ⟨limit, method, params⟩ := request
    obtain ⟨fault, p, hrequest, hdeaf, hcause⟩ := requestWithin_deaf h limit method params
    obtain ⟨hanswer, hperform⟩ := answer_of_request hcall hrequest
    exact deaf_of_answer (t := { s with nextId := s.nextId + 1 }) hanswer hperform rfl rfl hdeaf
      hcause
  | none =>
    cases call with
    | handshake root options =>
      have huri : Uri.ofFolder? root = none := by simpa [requestOf?] using hcall
      simp only [perform, handshake, huri, speaks]
      exact ⟨h, fun hspeaks => absurd hspeaks Bool.false_ne_true⟩
    | notify method params =>
      obtain ⟨fault, p, hsend, hdeaf, hcause⟩ := hnotify s method params rfl
      refine deaf_of_answer (t := s) ?_ (congrArg Prod.snd hsend) rfl rfl hdeaf hcause
      rw [answer, hsend]
      rfl
    | closeDocument document =>
      obtain ⟨fault, p, hsend, hdeaf, hcause⟩ := hnotify s "textDocument/didClose"
        (.object [Message.textDocument document.uri]) rfl
      refine deaf_of_answer (t := s) ?_ (congrArg Prod.snd hsend) rfl rfl hdeaf hcause
      rw [answer, closeDocument, hsend]
      rfl
    | openDocument path =>
      cases hpath : Document.ofPath path with
      | error fault =>
        simp only [perform, openDocument, speaks, uriOf?, hpath]
        exact ⟨h, fun hspeaks => absurd hspeaks Bool.false_ne_true⟩
      | ok document =>
        cases habandoned : s.isAbandoned with
        | true =>
          simp only [perform, openDocument, hpath, habandoned, if_true]
          exact ⟨h, fun _ hpatient => absurd hpatient.symm Bool.false_ne_true⟩
        | false =>
          cases htext : client.files.readText path with
          | error cause =>
            simp only [perform, openDocument, speaks, uriOf?, hpath, habandoned, htext]
            exact ⟨h, fun hspeaks => absurd hspeaks Bool.false_ne_true⟩
          | ok text =>
            -- the file is read, but its text is not written
            let t : Session σ := { s with atHand := max s.atHand (s.clock + 1) }
            obtain ⟨fault, p, hsend, hdeaf, hcause⟩ := hnotify t "textDocument/didOpen"
              (.object [("textDocument", .object [("languageId", .text client.languageId),
                ("text", .text text), ("uri", .text document.uri), ("version", .integer 1)])]) rfl
            have hopen : client.openDocument path s = (.error fault, { t with peer := p }) := by
              simp only [openDocument, hpath, habandoned, htext, Bool.false_eq_true, if_false]
              rw [hsend]
              rfl
            have hanswer : (client.answer (.openDocument path) s).fault? = some fault := by
              rw [answer, hopen]
              rfl
            obtain ⟨hstays, hfails⟩ :=
              deaf_of_answer (t := t) hanswer (congrArg Prod.snd hopen) rfl rfl hdeaf hcause
            exact ⟨hstays, fun hspeaks _ => hfails hspeaks habandoned⟩
    | _ => cases hcall

/-! ## Scans over a broken connection -/

end Client

/-- A call that fails does not skip its file, unless the file could not be loaded. -/
theorem Call.skips_eq_false {call : Call} {fault : Fault} (h : call.fault? = some fault)
    (hload : fault.isLoadFailure = false ∨ ∀ path answer, call ≠ .openDocument path answer) :
    call.skips = false := by
  cases call with
  | openDocument path answer =>
    cases answer with
    | ok document => cases h
    | error fault' =>
      cases h
      exact hload.resolve_right fun hother => hother _ _ rfl
  | documentSymbols document answer =>
    cases answer with
    | ok outline => cases h
    | error fault' => rfl
  | _ => rfl

namespace Client

open Session

variable {σ : Type} {client : Client σ} {s : Session σ}

theorem fault_of_gives {call : Call} (h : client.service.Gives s call) :
    (client.answer call.asked s).fault? = call.fault? := by
  cases call with
  | openDocument path answer =>
    have hopened : (client.openDocument path s).1 = answer := h
    rw [Call.asked, Client.answer, hopened]
    cases answer <;> rfl
  | documentSymbols document answer =>
    have hlisted : (client.documentSymbols document s).1 = answer := h
    rw [Call.asked, Client.answer, hlisted]
    cases answer <;> rfl
  | references document place answer =>
    have hcounted : (client.references document place s).1 = answer := h
    rw [Call.asked, Client.answer, hcounted]
    cases answer <;> rfl
  | closeDocument document answer =>
    have hclosed : (client.closeDocument document s).1 = answer := h
    rw [Call.asked, Client.answer, hclosed]
    cases answer <;> rfl

/-- The connection of a client is broken, in one direction or the other. -/
structure IsBroken (client : Client σ) (s : Session σ) : Prop where
  output : IsOutput s.incoming
  patient : s.closing = none
  broken : s.Ended ∨ client.peer.IsDeaf s.peer

/-- A call breaks the connection, or learns that it is broken: nothing more will come, or a message
is not written and none is from then on. -/
def Loses (client : Client σ) (call : ClientCall) (s : Session σ) : Prop :=
  client.Learns call s ∨
    (∃ cause, (client.answer call s).fault? = some (.io cause)) ∧
      client.peer.IsDeaf (client.perform call s).peer

/-- Whether a file can be loaded. -/
def isLoadable (client : Client σ) (path : String) : Bool := (client.uriOf? path).isSome

/-- What a scan says once the connection is lost: it finds nothing more, and it fails for the file at
hand and for each later one that can be loaded. -/
def GivesUpWhenLost (client : Client σ) (config : Config) (base : String) (files : List SourceFile)
    (s : Session σ) : Prop :=
  let run := scan config base (client.service.watched none) files ⟨s, []⟩
  let outcome := (scan config base client.service files s).outcome
  ∃ records : List FileRecord, files = records.map FileRecord.file ∧
    run.state.calls = records.flatMap FileRecord.calls ∧
    (∀ r ∈ records, FileEnds config r.file.path r.calls r.status) ∧
    outcome.filesScanned = records.countP (FileRecord.hasEnded .scanned) ∧
    outcome.filesSkipped = records.countP (FileRecord.hasEnded .skipped) ∧
    outcome.filesFailed = records.countP FileRecord.hasFailed ∧
    ∀ done r rest made call more, records = done ++ r :: rest →
      r.calls = made ++ call :: more →
      client.Loses call.asked (client.service.replay s (done.flatMap FileRecord.calls ++ made)) →
      GivesUp config client.isLoadable outcome.findings done r rest made call

variable (hsilent : client.peer.IsSilent)

include hsilent

/-- A wait without an end consumes all that there is, and so the client does not learn from it that
nothing more will come. -/
theorem not_ended_of_endsIn {call : ClientCall} {limit : Option Nat} {method : String}
    {params : Json}
    (hcall : client.requestOf? call = some (limit, method, params))
    (hends : EndsIn limit s (s.requestWithin client.peer limit method params)) :
    ¬ (client.perform call s).Ended := by
  obtain ⟨hincoming, -⟩ := (tells_after_request hcall s).same hsilent
  rintro ⟨a, rest, harrivals, -⟩
  rw [hincoming, hends.silent] at harrivals
  cases harrivals

theorem isBroken_perform (call : ClientCall) (h : client.IsBroken s) :
    client.IsBroken (client.perform call s) := by
  obtain ⟨houtput, -⟩ := perform_waited hsilent call h.output
  refine ⟨houtput, ?_, h.broken.imp (fun hended => ?_) fun hdeaf => ?_⟩
  · rcases client.perform_closing call s with hsame | ⟨limit, method, params, hcall, hends⟩
    · exact hsame.trans h.patient
    -- neither a client that has learned of the end waits, nor one whose server is deaf
    · rcases h.broken with hended | hdeaf
      · have hended' := (perform_ended hsilent call hended).1
        exact absurd hended' (not_ended_of_endsIn hsilent hcall hends)
      · obtain ⟨fault, p, hrequest, -⟩ := requestWithin_deaf hdeaf limit method params
        have habandoned := hends.abandoned
        rw [hrequest] at habandoned
        cases (isAbandoned_of_patient h.patient).symm.trans habandoned
  · exact (perform_ended hsilent call hended).1
  · exact (perform_deaf call hdeaf).1

theorem isBroken_of_loses {call : ClientCall} (houtput : IsOutput s.incoming)
    (hpatient : s.closing = none) (h : client.Loses call s) :
    client.IsBroken (client.perform call s) := by
  obtain ⟨houtput', -, -, hlearns⟩ := perform_waited hsilent call houtput
  refine ⟨houtput', ?_, h.imp hlearns fun hdeaf => hdeaf.2⟩
  rcases client.perform_closing call s with hsame | ⟨limit, method, params, hcall, hends⟩
  · exact hsame.trans hpatient
  · rcases h with hlearned | ⟨⟨cause, hio⟩, -⟩
    · exact absurd (hlearns hlearned) (not_ended_of_endsIn hsilent hcall hends)
    · have hanswer := (answer_of_request hcall (Prod.ext hends.result rfl)).1
      cases hanswer.symm.trans hio

omit hsilent in
/-- **In an abandoned session** the connection is not lost any more: nothing is consumed, and no
message is offered. -/
theorem not_loses_of_abandoned {call : ClientCall} (h : s.isAbandoned = true) :
    ¬ client.Loses call s := by
  have hrequest : ∀ {limit method params}, client.requestOf? call = some (limit, method, params) →
      client.faults call s = [] ∧ (client.answer call s).fault? = some .unanswered := by
    intro limit method params hcall
    have habandoned : s.requestWithin client.peer limit method params = _ :=
      requestWithin_abandoned h limit method params
    refine ⟨?_, (answer_of_request hcall habandoned).1⟩
    have hnone : (s.exchange client.peer limit method params).consumed = [] :=
      exchange_consumed (by rw [habandoned]; rfl)
    rw [faults, exchange?_eq_some hcall]
    simp [hnone, faultsOf]
  have hnotify : ∀ (method : String) (params : Json),
      client.notify method params s = (.error .unanswered, s) :=
    fun method params => send_abandoned h _
  rintro ((hconsumed | hclosed) | ⟨⟨cause, hio⟩, -⟩)
  · cases hcall : client.requestOf? call with
    | none => exact hconsumed (by rw [faults, exchange?_eq_none hcall]; rfl)
    | some request => exact hconsumed (hrequest hcall).1
  · obtain ⟨limit, method, params, hcall, -⟩ := request_of_closed hclosed
    cases (hrequest hcall).2.symm.trans hclosed
  · cases hcall : client.requestOf? call with
    | some request => cases (hrequest hcall).2.symm.trans hio
    | none =>
      cases call with
      | handshake root options =>
        have huri : Uri.ofFolder? root = none := by simpa [requestOf?] using hcall
        simp [answer, handshake, huri] at hio
      | notify method params => simp [answer, hnotify] at hio
      | closeDocument document => simp [answer, closeDocument, hnotify] at hio
      | openDocument path =>
        rw [answer, Answer.fault?_document, openDocument, h] at hio
        cases hpath : Document.ofPath path with
        | error fault =>
          rw [hpath] at hio
          cases hio
          cases Document.isLoadFailure_of_ofPath hpath
        | ok document =>
          rw [hpath] at hio
          cases hio
      | _ => cases hcall

/-- **A client whose connection is broken** is out of order as a service. -/
theorem outage : client.service.Outage client.isLoadable client.IsBroken where
  kept call h := by
    rw [service_after]
    exact isBroken_perform hsilent call.asked h
  outline {s} document h := by
    have habandoned := isAbandoned_of_patient h.patient
    have hfails : ∃ fault, client.FailsAtOnce (.documentSymbols document) s fault := by
      rcases h.broken with hended | hdeaf
      · exact ⟨_, (perform_ended hsilent _ hended).2.2 _ _ _ rfl habandoned⟩
      · obtain ⟨cause, hfails⟩ := (perform_deaf (.documentSymbols document) hdeaf).2 rfl habandoned
        exact ⟨_, hfails⟩
    obtain ⟨fault, hfault, -⟩ := hfails
    exact ⟨fault, Answer.fault?_outline.1 hfault⟩
  loaded {path s fault} hload h hfault := by
    have habandoned := isAbandoned_of_patient h.patient
    unfold isLoadable uriOf? at hload
    change (client.openDocument path s).1 = .error fault at hfault
    unfold openDocument at hfault
    cases hpath : Document.ofPath path with
    | error fault' =>
      rw [hpath] at hload
      cases hload
    | ok document =>
      cases htext : client.files.readText path with
      | error cause =>
        rw [hpath, htext] at hload
        cases hload
      | ok text =>
        simp only [hpath, habandoned, htext, Bool.false_eq_true, if_false] at hfault
        rcases andThen_error hfault with hfault | ⟨_, t, -, hfault⟩
        · rcases send_silent hsilent _ _ with ⟨-, hsend⟩ | ⟨-, p, ⟨cause, -, hsend⟩ | ⟨-, hsend⟩⟩
          all_goals
            rw [notify, Session.notify, hsend] at hfault
            cases hfault
          · rfl
          · rfl
        · cases hfault
  unloaded {path s} hload h := by
    have habandoned := isAbandoned_of_patient h.patient
    unfold isLoadable uriOf? at hload
    change ∃ fault, (client.openDocument path s).1 = .error fault ∧ _
    unfold openDocument
    cases hpath : Document.ofPath path with
    | error fault => exact ⟨fault, rfl, Document.isLoadFailure_of_ofPath hpath⟩
    | ok document =>
      simp only [habandoned, Bool.false_eq_true, if_false]
      cases htext : client.files.readText path with
      | error cause => exact ⟨_, rfl, rfl⟩
      | ok text =>
        rw [hpath, htext] at hload
        cases hload

/-- **A scan gives up** when the connection is lost. -/
theorem scan_givesUp (houtput : IsOutput s.incoming) (hpatient : s.closing = none) (config : Config)
    (base : String) (files : List SourceFile) : client.GivesUpWhenLost config base files s := by
  unfold GivesUpWhenLost
  intro run outcome
  obtain ⟨records, hfiles, hcalls, hends, hscanned, hskipped, hfailed, hgivesUp⟩ :=
    (outage hsilent).givesUp (fun _ => rfl) config base files s
  refine ⟨records, hfiles, hcalls, hends, hscanned, hskipped, hfailed, ?_⟩
  intro done r rest made call more hrecords hr hloses
  -- up to the call the connection may be whole
  have hbefore :
      IsOutput (client.service.replay s (done.flatMap FileRecord.calls ++ made)).incoming ∧
      (client.service.replay s (done.flatMap FileRecord.calls ++ made)).IsSteady := by
    refine Service.replay_keeps (P := fun t : Session σ => IsOutput t.incoming ∧ t.IsSteady)
      (fun call t ht => ?_) _ ⟨houtput, .inl hpatient⟩
    obtain ⟨houtput', -⟩ := perform_waited hsilent call.asked ht.1
    rw [service_after]
    exact ⟨houtput', client.perform_steady call.asked ht.2⟩
  have hpatient' :=
    hbefore.2.resolve_right fun habandoned => not_loses_of_abandoned habandoned hloses
  have hgives : client.service.Gives
      (client.service.replay s (done.flatMap FileRecord.calls ++ made)) call := by
    obtain ⟨hanswers, -⟩ := scan_answers config client.service none base files s
    have hsplit : run.state.calls = (done.flatMap FileRecord.calls ++ made) ++
        (call :: (more ++ rest.flatMap FileRecord.calls)) := by
      rw [hcalls, hrecords, List.flatMap_append, List.flatMap_cons, hr]
      simp
    rw [show (scan config base (client.service.watched none) files ⟨s, []⟩).state.calls = _
      from hsplit, Service.answers_append] at hanswers
    exact hanswers.2.1
  have hfault := fault_of_gives hgives
  obtain ⟨hsome, hskips⟩ : call.fault?.isSome = true ∧ call.skips = false := by
    rcases hloses with (hconsumed | hclosed) | ⟨⟨cause, hio⟩, -⟩
    · -- only a request consumes something, and an open makes none
      obtain ⟨-, hnone | ⟨cause, -, hanswer⟩, -⟩ := perform_waited hsilent call.asked hbefore.1
      · exact absurd hnone hconsumed
      · rw [hfault] at hanswer
        refine ⟨by rw [hanswer]; rfl, Call.skips_eq_false hanswer (.inr ?_)⟩
        rintro path answer rfl
        exact hconsumed rfl
    · rw [hfault] at hclosed
      exact ⟨by rw [hclosed]; rfl, Call.skips_eq_false hclosed (.inl rfl)⟩
    · rw [hfault] at hio
      exact ⟨by rw [hio]; rfl, Call.skips_eq_false hio (.inl rfl)⟩
  refine hgivesUp done r rest made call more hrecords hr hsome hskips ?_
  rw [Service.replay_append]
  show client.IsBroken (client.service.after _ call)
  rw [service_after]
  exact isBroken_of_loses hsilent hbefore.1 hpatient' hloses

/-! ## Whole conversations -/

omit hsilent in
/-- A session comes later in a conversation: calls were made, each of which was perhaps given up, and
the caller of the next one may give up, too. -/
def Later (client : Client σ) (s later : Session σ) : Prop :=
  ∃ (calls : List (ClientCall × Option Nat)) (closing : Option Nat),
    later = { (client.run calls s).2 with closing := closing }

omit hsilent in
theorem Later.of_closing (client : Client σ) (s : Session σ) (closing : Option Nat) :
    client.Later s { s with closing := closing } := ⟨[], closing, rfl⟩

omit hsilent in
theorem Later.refl (client : Client σ) (s : Session σ) : client.Later s s :=
  .of_closing client s s.closing

omit hsilent in
theorem Later.call {t : Session σ} (h : client.Later s t) (call : ClientCall)
    (closing : Option Nat) : client.Later s { client.perform call t with closing := closing } := by
  obtain ⟨calls, before, rfl⟩ := h
  exact ⟨calls ++ [(call, before)], closing, by rw [run_append]; rfl⟩

omit hsilent in
/-- What stays true during a call stays true. -/
theorem Later.keeps {P : Session σ → Prop} {later : Session σ}
    (hclosing : ∀ (t : Session σ) (closing : Option Nat), P t → P { t with closing := closing })
    (hcall : ∀ (t : Session σ) (call : ClientCall), P t → P (client.perform call t))
    (h : client.Later s later) (hs : P s) : P later := by
  obtain ⟨calls, closing, rfl⟩ := h
  refine hclosing _ closing ?_
  induction calls generalizing s with
  | nil => exact hs
  | cons c rest ih => exact ih (hcall _ c.1 (hclosing s c.2 hs))

theorem Later.output {later : Session σ} (h : client.Later s later) (hs : IsOutput s.incoming) :
    IsOutput later.incoming :=
  h.keeps (P := fun t : Session σ => IsOutput t.incoming) (fun _ _ ht => ht)
    (fun _ call ht => (perform_waited hsilent call ht).1) hs

theorem Later.ended {later : Session σ} (h : client.Later s later) (hs : s.Ended) : later.Ended :=
  h.keeps (fun _ _ ht => ht) (fun _ call ht => (perform_ended hsilent call ht).1) hs

omit hsilent in
theorem Later.deaf {later : Session σ} (h : client.Later s later) (hs : client.peer.IsDeaf s.peer) :
    client.peer.IsDeaf later.peer :=
  h.keeps (P := fun t : Session σ => client.peer.IsDeaf t.peer) (fun _ _ ht => ht)
    (fun _ call ht => (perform_deaf call ht).1) hs

end Client

/-- **A broken connection stays broken, and nothing is found over it.** Let a server send any bytes
at any times, and take messages or not, and let a client make any calls, each of which may be given
up. A fault in the output is the answer to one call at most, the one that consumes it. Once it is
consumed, or a call was told that the connection is closed, no later call consumes anything, and a
later request fails at once: because its message is not written, or else because the connection is
closed. Once the server is deaf, every later call that has something to say to it fails at once
because its message is not written. A scan finds nothing more after a call that failed for one of
these reasons; the file at hand fails, unless it was being closed, and so does each later file that
can be loaded. What the server sends after its first malformed frame, and when, makes no difference
to any answer. -/
theorem Client.hangup_lasts {σ : Type} (client : Client σ) (hsilent : client.peer.IsSilent)
    (server : σ) (chunks : List Chunk) (ending : Ending) :
    (∀ s, client.Later (.opened server chunks ending) s →
      (∀ call,
        (client.faults call s = [] ∨ ∃ cause, client.faults call s = [cause] ∧
          (client.answer call s).fault? = some cause) ∧
        (∀ e ∈ client.exchange? call s, ∀ cause, e.result = .error cause → cause.IsDecoding →
          client.faults call s = [cause]) ∧
        (client.Learns call s → ∀ later, client.Later (client.perform call s) later → ∀ last,
          client.faults last later = [] ∧
          ∀ limit method params, client.requestOf? last = some (limit, method, params) →
            later.isAbandoned = false → client.FailsAtOnce last later
              (later.refusal client.peer (Message.request later.nextId method params)))) ∧
      (client.peer.IsDeaf s.peer → ∀ later, client.Later s later → ∀ last,
        client.speaks last = true → later.isAbandoned = false →
          ∃ cause, client.FailsAtOnce last later (.io cause)) ∧
      (s.closing = none → ∀ config base files, client.GivesUpWhenLost config base files s)) ∧
    ∀ before time first more after, chunks = before ++ ⟨time, first ++ more⟩ :: after →
      Frame.HasFault (before.flatMap Chunk.bytes ++ first) → ∀ more' after' ending' calls,
        client.transcript calls
            (.opened server (before ++ ⟨time, first ++ more'⟩ :: after') ending') =
          client.transcript calls (.opened server chunks ending) := by
  refine ⟨fun s hs => ?_, ?_⟩
  · have houtput : IsOutput s.incoming := hs.output hsilent (isOutput_arrivals chunks ending)
    refine ⟨fun call => ?_, fun hdeaf later hlater last => ?_, fun hpatient config base files => ?_⟩
    · obtain ⟨-, hfaults, hdecoding, hended⟩ := perform_waited hsilent call houtput
      refine ⟨hfaults, hdecoding, fun hlearns later hlater last => ?_⟩
      exact (perform_ended hsilent last (hlater.ended hsilent (hended hlearns))).2
    · exact (perform_deaf last (hlater.deaf hdeaf)).2
    · exact scan_givesUp hsilent houtput hpatient config base files
  · rintro before time first more after rfl hfault more' after' ending' calls
    have hstopped : (Reader.start.feed (before.flatMap Chunk.bytes ++ first)).2 = ⟨none⟩ :=
      hfault.drained
    have hsame : arrivals (before ++ ⟨time, first ++ more'⟩ :: after') ending' =
        arrivals (before ++ ⟨time, first ++ more⟩ :: after) ending :=
      arrivalsFrom_eq_of_stopped first more' more time after' after ending' ending before hstopped
    rw [Session.opened, Session.opened, hsame]

/-- The answer to the first request, and a frame with a body that is no message. -/
def garbled : List Chunk :=
  [⟨5, Frame.bytes (Message.answer (.integer 1) .null) ++ Frame.ofBody [120]⟩]

/-- A server takes three messages. The second request consumes the fault in its output, the third one
finds the connection closed, and the message after it is not taken any more. -/
theorem Client.hangup_lasts_garbled :
    let start : Session Stream := .opened ⟨some 3⟩ garbled .silent
    let s := { hastyClient.perform (.request "a" .null) start with closing := none }
    let t := { hastyClient.perform (.request "b" .null) s with closing := none }
    let u := { hastyClient.perform (.request "c" .null) t with closing := none }
    hastyClient.peer.IsSilent ∧ hastyClient.Later start s ∧
      hastyClient.Learns (.request "b" .null) s ∧
      hastyClient.FailsAtOnce (.request "c" .null) t .closed ∧
      hastyClient.Later start u ∧ hastyClient.peer.IsDeaf u.peer ∧
      ∃ cause, hastyClient.FailsAtOnce (.notify "d" .null) u (.io cause) := by
  intro start s t u
  have hs : hastyClient.Later start s := (Later.of_closing hastyClient start none).call _ none
  have hu : hastyClient.Later start u := (hs.call _ none).call _ none
  have hlearns : hastyClient.Learns (.request "b" .null) s := by
    have hone : (hastyClient.faults (.request "b" .null) s).length = 1 := by decide +kernel
    refine .inl fun hnone => ?_
    rw [hnone] at hone
    cases hone
  have hroom : t.peer.room = some 1 := by decide +kernel
  have hdead : u.peer.room = some 0 := by decide +kernel
  have hpatient : t.isAbandoned = false := rfl
  obtain ⟨hruns, -⟩ := hastyClient.hangup_lasts Stream.isSilent_peer ⟨some 3⟩ garbled .silent
  obtain ⟨hcalls, -⟩ := hruns s hs
  obtain ⟨-, -, hlater⟩ := hcalls (.request "b" .null)
  obtain ⟨-, hfails⟩ := hlater hlearns t (.of_closing _ _ none) (.request "c" .null)
  have hasked := hfails _ _ _ rfl hpatient
  have hdeaf : hastyClient.peer.IsDeaf u.peer := Stream.failsForGood_peer.isDeaf hdead
  obtain ⟨-, hdeafs, -⟩ := hruns u hu
  refine ⟨Stream.isSilent_peer, hs, hlearns, ?_, hu, hdeaf,
    hdeafs hdeaf u (.refl hastyClient u) (.notify "d" .null) rfl rfl⟩
  have hrefusal : t.refusal hastyClient.peer (Message.request t.nextId "c" .null) = .closed := by
    simp [Session.refusal, hastyClient, Stream.peer, Stream.take, hroom, Except.map]
  rw [hrefusal] at hasked
  exact hasked

end DeadSymbols
