import DeadSymbols.CommandLine.Run
import DeadSymbols.Proofs.Abandonment
import DeadSymbols.Proofs.Replay

/-!
# What a client tries to write

A server may refuse messages. The list of the messages that were written says nothing about those
that it refused, so the server is given a log of all that was offered to it. A client whose session
is abandoned offers nothing more; what it would have said without that comes after what it offered.

* `Peer.logged`: a server with a log.
* `Client.survey_unlogged`: a log makes no difference to a conversation.
* `Session.Wrote`: what there was to say between two states of a session.
* `Session.await_wrote`, `Session.requestWithin_wrote`: what there is to say in waits and requests.
-/

namespace DeadSymbols

variable {σ : Type}

/-- A server with a log: the messages that were offered to it, and whether it took them. -/
structure Logged (σ : Type) where
  server : σ
  log : List (Json × Bool) := []

/-- Writes down a message. -/
def Logged.note {α : Type} (logged : Logged σ) (message : Json) (answer : Except OsError α × σ) :
    Except OsError α × Logged σ :=
  (answer.1, ⟨answer.2, logged.log ++ [(message, answer.1.isOk)]⟩)

/-- The same server, with a log. -/
def Peer.logged (peer : Peer σ) : Peer (Logged σ) where
  hear time message l := l.note message (peer.hear time message l.server)
  accept answer l := l.note answer (peer.accept answer l.server)

/-- The same client of the server with a log. -/
def Client.logged (client : Client σ) : Client (Logged σ) :=
  { client with peer := client.peer.logged }

/-- The same session, with an empty log. -/
def Session.logged (s : Session σ) : Session (Logged σ) := { s with peer := ⟨s.peer, []⟩ }

/-! ## A log makes no difference -/

namespace Session

/-- The session without the log. -/
def unlogged (s : Session (Logged σ)) : Session σ := { s with peer := s.peer.server }

/-- A result, and the session without the log. -/
def plain {α : Type} (r : α × Session (Logged σ)) : α × Session σ := (r.1, r.2.unlogged)

variable (peer : Peer σ)

theorem send_unlogged (message : Json) (s : Session (Logged σ)) :
    s.unlogged.send peer message = plain (s.send peer.logged message) := by
  have hsame : s.unlogged.isAbandoned = s.isAbandoned := rfl
  rw [send, send, hsame]
  cases s.isAbandoned with
  | true => rfl
  | false =>
    rcases hhear : peer.hear s.clock message s.peer.server with ⟨cause | more, p⟩
    all_goals
      simp only [Peer.logged, Logged.note, unlogged, hhear]
      rfl

theorem reply_unlogged (answer : Json) (s : Session (Logged σ)) :
    s.unlogged.reply peer answer = plain (s.reply peer.logged answer) := by
  rcases haccept : peer.accept answer s.peer.server with ⟨cause | _, p⟩
  all_goals
    simp only [reply, Peer.logged, Logged.note, unlogged, haccept]
    rfl

theorem awaitItem_unlogged (deadline : Option Nat) (time : Nat) (s : Session (Logged σ)) :
    s.unlogged.awaitItem? deadline time = (s.awaitItem? deadline time).map unlogged := by
  unfold awaitItem? unlogged
  split
  · rfl
  · split <;> rfl

theorem awaitNothing_unlogged (method : String) (deadline : Option Nat) (s : Session (Logged σ)) :
    awaitNothing method deadline s.unlogged = plain (awaitNothing method deadline s) := by
  obtain ⟨p, incoming, clock, atHand, nextId, sent, closing⟩ := s
  rcases deadline with _ | d
  · cases closing <;> rfl
  · cases closing with
    | none => rfl
    | some c =>
      by_cases hd : d ≤ c
      all_goals
        simp only [awaitNothing, unlogged, hd, if_true, if_false]
        rfl

theorem await_unlogged (id : Nat) (method : String) (deadline : Option Nat)
    (arrivals : List Arrival) : ∀ s : Session (Logged σ),
      await peer id method deadline arrivals s.unlogged =
        plain (await peer.logged id method deadline arrivals s) := by
  induction arrivals with
  | nil => exact fun s => awaitNothing_unlogged method deadline { s with incoming := [] }
  | cons a rest ih =>
    intro s
    have hawait := awaitItem_unlogged deadline a.time s
    cases ha : s.awaitItem? deadline a.time with
    | none =>
      rw [ha] at hawait
      rw [await_late ha, await_late hawait]
      exact awaitNothing_unlogged method deadline { s with incoming := a :: rest }
    | some t =>
      rw [ha] at hawait
      cases hitem : a.item with
      | finish => rw [await_finish ha hitem, await_finish hawait hitem]; rfl
      | fault cause => rw [await_fault ha hitem, await_fault hawait hitem]; rfl
      | message v =>
        cases hroute : route id method v with
        | settled result =>
          rw [await_settled ha hitem hroute, await_settled hawait hitem hroute]
          rfl
        | passed =>
          rw [await_passed ha hitem hroute, await_passed hawait hitem hroute]
          exact ih t
        | asked answer =>
          have hsame := reply_unlogged peer answer t
          rcases hreply : t.reply peer.logged answer with ⟨fault | _, replied⟩
          · rw [hreply] at hsame
            rw [await_refused ha hitem hroute hreply, await_refused hawait hitem hroute hsame]
            rfl
          · rw [hreply] at hsame
            rw [await_asked ha hitem hroute hreply, await_asked hawait hitem hroute hsame]
            exact ih replied

theorem requestWithin_unlogged (limit : Option Nat) (method : String) (params : Json)
    (s : Session (Logged σ)) :
    s.unlogged.requestWithin peer limit method params =
      plain (s.requestWithin peer.logged limit method params) := by
  let t : Session (Logged σ) := { s with nextId := s.nextId + 1 }
  have hsend : { s.unlogged with nextId := s.nextId + 1 }.send peer
        (Message.request s.nextId method params) =
      plain (t.send peer.logged (Message.request s.nextId method params)) :=
    send_unlogged peer (Message.request s.nextId method params) t
  have hid : s.unlogged.nextId = s.nextId := rfl
  simp only [requestWithin, hid, hsend]
  rcases t.send peer.logged (Message.request s.nextId method params) with ⟨fault | _, sent⟩
  · rfl
  · exact await_unlogged peer s.nextId method _ sent.incoming sent

theorem granted_unlogged (limit : Option Nat) (method : String) (params : Json)
    (s : Session (Logged σ)) :
    s.unlogged.Granted peer limit method params ↔ s.Granted peer.logged limit method params := by
  let t : Session (Logged σ) := { s with nextId := s.nextId + 1 }
  let message := Message.request s.nextId method params
  show GrantedBy s.nextId (t.unlogged.send peer message).2.incoming
      (s.unlogged.requestWithin peer limit method params).2.incoming ↔
    GrantedBy s.nextId (t.send peer.logged message).2.incoming
      (s.requestWithin peer.logged limit method params).2.incoming
  rw [send_unlogged, requestWithin_unlogged]
  rfl

end Session

namespace Client

open Session

variable (client : Client σ)

theorem andThen_unlogged {α β : Type} {r : Except Fault α × Session (Logged σ)}
    {next : α → Session σ → Except Fault β × Session σ}
    {next' : α → Session (Logged σ) → Except Fault β × Session (Logged σ)}
    (h : ∀ a s, next a s.unlogged = plain (next' a s)) :
    andThen (plain r) next = plain (andThen r next') := by
  rcases r with ⟨fault | a, s⟩
  · rfl
  · exact h a s

theorem handshake_unlogged (root : String) (options : Option Json) (s : Session (Logged σ)) :
    client.handshake root options s.unlogged = plain (client.logged.handshake root options s) := by
  unfold handshake
  cases Uri.ofFolder? root with
  | none => rfl
  | some uri =>
    simp only [request, requestWithin_unlogged]
    refine andThen_unlogged fun result s => ?_
    simp only [notify, Session.notify, send_unlogged]
    exact andThen_unlogged fun _ s => rfl

theorem shutdown_unlogged (s : Session (Logged σ)) :
    client.shutdown s.unlogged = plain (client.logged.shutdown s) := by
  simp only [shutdown, requestWithin_unlogged]
  exact andThen_unlogged fun _ s => send_unlogged client.peer _ s

theorem openDocument_unlogged (path : String) (s : Session (Logged σ)) :
    client.openDocument path s.unlogged = plain (client.logged.openDocument path s) := by
  have hsame : s.unlogged.isAbandoned = s.isAbandoned := rfl
  have hfiles : client.logged.files = client.files := rfl
  unfold openDocument
  rw [hsame, hfiles]
  cases Document.ofPath path with
  | error fault => rfl
  | ok document =>
    cases s.isAbandoned with
    | true => rfl
    | false =>
      cases client.files.readText path with
      | error cause => rfl
      | ok text =>
        let t : Session (Logged σ) := { s with atHand := max s.atHand (s.clock + 1) }
        show andThen (t.unlogged.send client.peer _) _ = _
        rw [send_unlogged]
        exact andThen_unlogged fun _ s => rfl

theorem locations_unlogged (document : Document) (place : Position) (s : Session (Logged σ)) :
    client.locations document place s.unlogged =
      plain (client.logged.locations document place s) := by
  simp only [locations, request, requestWithin_unlogged]
  exact andThen_unlogged fun _ s => rfl

/-- The service of a client does what it does with a log. -/
theorem maps_unlogged : client.logged.service.Maps unlogged client.service where
  opening := client.openDocument_unlogged
  outline document s := by
    simp only [service, documentSymbols, request, requestWithin_unlogged]
    exact andThen_unlogged fun _ s => rfl
  count document place s := by
    simp only [service, references, locations_unlogged]
    exact andThen_unlogged fun _ s => rfl
  closing document s := congrArg Prod.snd (send_unlogged client.peer _ s)
  cancelled _ := rfl

/-- **A log makes no difference** to a whole conversation. -/
theorem survey_unlogged (root : String) (config : Config) (files : List SourceFile)
    (s : Session (Logged σ)) :
    client.survey root config files s.unlogged =
      plain (client.logged.survey root config files s) := by
  unfold survey
  rw [handshake_unlogged]
  refine andThen_unlogged fun _ s => ?_
  obtain ⟨houtcome, hnotices, hstate⟩ := scan_maps config client.maps_unlogged root files s
  simp only [houtcome, hnotices, hstate, shutdown_unlogged]
  rfl

end Client

/-! ## What there is to say -/

/-- After a message that is not taken none is. -/
def Lasting (said : List (Json × Bool)) : Prop :=
  said.Pairwise fun o o' => o'.2 = true → o.2 = true

namespace Session

/-- No message is taken any more: the server is dead, or the session is abandoned. -/
def IsOver (dead : σ → Prop) (s : Session (Logged σ)) : Prop :=
  dead s.peer.server ∨ s.isAbandoned = true

/-- What a server was offered of some messages between two states of a session: all of them, or the
first ones if the session is abandoned, and none if it was abandoned before. It took none of the
others. -/
structure Heard (s after : Session (Logged σ)) (said offered : List (Json × Bool)) : Prop where
  log : after.peer.log = s.peer.log ++ offered
  first : ∃ unsaid, said = offered ++ unsaid ∧ ∀ o ∈ unsaid, o.2 = false
  all : offered = said ∨ after.isAbandoned = true
  none : s.isAbandoned = true → offered = []

/-- Between two states of a session there were some messages to say. Those that the server took were
written; if there is one that it did not take, the session is over. -/
structure Wrote (dead : σ → Prop) (s after : Session (Logged σ)) (said : List (Json × Bool)) :
    Prop where
  heard : ∃ offered, Heard s after said offered
  sent : after.sent = s.sent ++ (said.filter Prod.snd).map Prod.fst
  steady : s.IsSteady → after.IsSteady
  abandoned : s.isAbandoned = true → after.isAbandoned = true
  refused : (∃ o ∈ said, o.2 = false) → after.IsOver dead
  late : s.IsOver dead → after.IsOver dead ∧ ∀ o ∈ said, o.2 = false
  lasting : Lasting said

/-- All messages were offered. -/
theorem Heard.of_log {s after : Session (Logged σ)} {said : List (Json × Bool)}
    (hlog : after.peer.log = s.peer.log ++ said) (hnone : s.isAbandoned = true → said = []) :
    Heard s after said said :=
  ⟨hlog, ⟨[], (List.append_nil said).symm, fun _ ho => absurd ho List.not_mem_nil⟩, .inl rfl, hnone⟩

namespace Wrote

variable {dead : σ → Prop} {s t u : Session (Logged σ)} {xs ys : List (Json × Bool)}

/-- There was nothing to say, and perhaps the session was abandoned meanwhile. -/
theorem of_silence (hpeer : t.peer = s.peer) (hsent : t.sent = s.sent)
    (hsteady : s.IsSteady → t.IsSteady) (habandoned : s.isAbandoned = true → t.isAbandoned = true) :
    Wrote dead s t [] where
  heard := ⟨[], .of_log (by rw [hpeer, List.append_nil]) fun _ => rfl⟩
  sent := by rw [hsent]; exact (List.append_nil _).symm
  steady := hsteady
  abandoned := habandoned
  refused := fun ⟨o, ho, _⟩ => absurd ho List.not_mem_nil
  late := fun h => ⟨h.imp (hpeer ▸ ·) habandoned, fun o ho => absurd ho List.not_mem_nil⟩
  lasting := .nil

/-- There was nothing to say, and nobody gave up. -/
theorem of_eq (hpeer : t.peer = s.peer) (hsent : t.sent = s.sent) (hclosing : t.closing = s.closing)
    (hclock : s.clock ≤ t.clock) : Wrote dead s t [] := by
  have habandoned : s.isAbandoned = true → t.isAbandoned = true :=
    fun h => isAbandoned_mono h hclosing hclock
  exact .of_silence hpeer hsent (fun h => h.imp hclosing.trans habandoned) habandoned

theorem refl (s : Session (Logged σ)) : Wrote dead s s [] := .of_eq rfl rfl rfl (Nat.le_refl _)

theorem trans (h : Wrote dead s t xs) (h' : Wrote dead t u ys) : Wrote dead s u (xs ++ ys) where
  heard := by
    obtain ⟨offered, hlog, ⟨unsaid, hsplit, hunsaid⟩, hall, hnone⟩ := h.heard
    obtain ⟨offered', hlog', ⟨unsaid', hsplit', hunsaid'⟩, hall', hnone'⟩ := h'.heard
    refine ⟨offered ++ offered', by rw [hlog', hlog, List.append_assoc], ?_, ?_, fun hs => ?_⟩
    -- if the first part was not offered as a whole, nothing of the second one was
    · rcases hall with rfl | habandoned
      · exact ⟨unsaid', by rw [hsplit', List.append_assoc], hunsaid'⟩
      · refine ⟨unsaid ++ ys, by rw [hsplit, hnone' habandoned]; simp, ?_⟩
        exact List.forall_mem_append.2 ⟨hunsaid, (h'.late (.inr habandoned)).2⟩
    · rcases hall with rfl | habandoned
      · exact hall'.imp_left (congrArg (offered ++ ·))
      · exact .inr (h'.abandoned habandoned)
    · rw [hnone hs, hnone' (h.abandoned hs)]
      rfl
  sent := by rw [h'.sent, h.sent, List.append_assoc, List.filter_append, List.map_append]
  steady := h'.steady ∘ h.steady
  abandoned := h'.abandoned ∘ h.abandoned
  refused := by
    rintro ⟨o, ho, hfalse⟩
    rcases List.mem_append.1 ho with ho | ho
    · exact (h'.late (h.refused ⟨o, ho, hfalse⟩)).1
    · exact h'.refused ⟨o, ho, hfalse⟩
  late := by
    intro hover
    obtain ⟨hover', hxs⟩ := h.late hover
    obtain ⟨hlast, hys⟩ := h'.late hover'
    refine ⟨hlast, fun o ho => ?_⟩
    rcases List.mem_append.1 ho with ho | ho
    · exact hxs o ho
    · exact hys o ho
  lasting := by
    refine List.pairwise_append.2 ⟨h.lasting, h'.lasting, fun o ho o' ho' htaken => ?_⟩
    -- after a refusal nothing is taken
    rw [← Bool.not_eq_false]
    intro hrefused
    have hover := h.refused ⟨o, ho, hrefused⟩
    rw [(h'.late hover).2 o' ho'] at htaken
    cases htaken

/-- Of the session after it only the server, what was written, and when the caller gives up
count. -/
theorem congr {t' : Session (Logged σ)} (h : Wrote dead s t xs) (hpeer : t'.peer = t.peer)
    (hsent : t'.sent = t.sent) (hclosing : t'.closing = t.closing) (hclock : t'.clock = t.clock) :
    Wrote dead s t' xs := by
  have hall := h.trans (.of_eq hpeer hsent hclosing (Nat.le_of_eq hclock.symm))
  rwa [List.append_nil] at hall

/-- The same goes for the session before it. -/
theorem of_same {s' : Session (Logged σ)} (h : Wrote dead s t xs) (hpeer : s.peer = s'.peer)
    (hsent : s.sent = s'.sent) (hclosing : s.closing = s'.closing) (hclock : s.clock = s'.clock) :
    Wrote dead s' t xs :=
  .trans (.of_eq hpeer hsent hclosing (Nat.le_of_eq hclock.symm)) h

/-- One message was offered, and the server took it or died. -/
theorem single {message : Json} {taken : Bool}
    (hlog : t.peer.log = s.peer.log ++ [(message, taken)])
    (hsent : t.sent = if taken then s.sent ++ [message] else s.sent)
    (hclosing : t.closing = s.closing) (hclock : t.clock = s.clock) (hopen : s.isAbandoned = false)
    (hrefused : taken = false → dead t.peer.server) (hlate : dead s.peer.server → taken = false) :
    Wrote dead s t [(message, taken)] where
  heard := ⟨_, .of_log hlog fun habandoned => absurd habandoned (Bool.eq_false_iff.1 hopen)⟩
  sent := by cases taken <;> simp [hsent]
  steady := fun h => h.imp hclosing.trans (isAbandoned_mono · hclosing (Nat.le_of_eq hclock.symm))
  abandoned := fun h => isAbandoned_mono h hclosing (Nat.le_of_eq hclock.symm)
  refused := by
    rintro ⟨o, ho, hfalse⟩
    obtain rfl := List.mem_singleton.1 ho
    exact .inl (hrefused hfalse)
  late := by
    rintro (hdead | habandoned)
    · refine ⟨.inl (hrefused (hlate hdead)), fun o ho => ?_⟩
      obtain rfl := List.mem_singleton.1 ho
      exact hlate hdead
    · cases hopen.symm.trans habandoned
  lasting := List.pairwise_singleton _ _

/-- There was one message to say, but the session is abandoned. -/
theorem unsaid (message : Json) (hpeer : t.peer = s.peer)
    (hsent : t.sent = s.sent) (ht : t.isAbandoned = true) : Wrote dead s t [(message, false)] where
  heard := ⟨[], by rw [hpeer, List.append_nil], ⟨_, rfl, by simp⟩, .inr ht, fun _ => rfl⟩
  sent := hsent.trans (List.append_nil _).symm
  steady := fun _ => .inr ht
  abandoned := fun _ => ht
  refused := fun _ => .inr ht
  late := fun _ => ⟨.inr ht, by simp⟩
  lasting := List.pairwise_singleton _ _

end Wrote

variable {peer : Peer σ} {dead : σ → Prop} (hfails : peer.FailsForGood dead)

include hfails

/-! ## Messages -/

/-- A request or a notification is offered, and written if the server takes it. In an abandoned
session it is not even offered. -/
theorem send_wrote (message : Json) (s : Session (Logged σ)) :
    ∃ taken, Wrote dead s (s.send peer.logged message).2 [(message, taken)] ∧
      ((s.send peer.logged message).1 = .ok () ∧ taken = true ∧ s.isAbandoned = false ∨
        (∃ fault, (s.send peer.logged message).1 = .error fault) ∧ taken = false) := by
  cases hopen : s.isAbandoned with
  | true =>
    rw [send_abandoned hopen]
    exact ⟨false, .unsaid message rfl rfl hopen, .inr ⟨⟨_, rfl⟩, rfl⟩⟩
  | false =>
    rcases hhear : peer.hear s.clock message s.peer.server with ⟨cause | more, p⟩
    · have hlogged : peer.logged.hear s.clock message s.peer =
          (.error cause, ⟨p, s.peer.log ++ [(message, false)]⟩) := by
        simp only [Peer.logged, Logged.note, hhear]
        rfl
      have hsend : s.send peer.logged message = (.error (.io cause),
          { s with peer := ⟨p, s.peer.log ++ [(message, false)]⟩ }) := by
        rw [send, hopen, if_neg Bool.false_ne_true, hlogged]
      rw [hsend]
      exact ⟨false, .single rfl rfl rfl rfl hopen (fun _ => hfails.dead_hear hhear) fun _ => rfl,
        .inr ⟨⟨_, rfl⟩, rfl⟩⟩
    · have hlogged : peer.logged.hear s.clock message s.peer =
          (.ok more, ⟨p, s.peer.log ++ [(message, true)]⟩) := by
        simp only [Peer.logged, Logged.note, hhear]
        rfl
      have hsend : s.send peer.logged message = (.ok (),
          { s with
            peer := ⟨p, s.peer.log ++ [(message, true)]⟩
            incoming := s.incoming ++ more
            sent := s.sent ++ [message] }) := by
        rw [send, hopen, if_neg Bool.false_ne_true, hlogged]
      have halive : ¬ dead s.peer.server := by
        intro hdead
        obtain ⟨cause, q, hq, -⟩ := hfails.hear_dead s.clock message s.peer.server hdead
        rw [hhear] at hq
        cases hq
      rw [hsend]
      exact ⟨true, .single rfl rfl rfl rfl hopen Bool.noConfusion fun h => absurd h halive,
        .inl ⟨rfl, rfl, rfl⟩⟩

/-- An answer is offered, and written if the server takes it. -/
theorem reply_wrote (answer : Json) {s : Session (Logged σ)} (hopen : s.isAbandoned = false) :
    ∃ taken, Wrote dead s (s.reply peer.logged answer).2 [(answer, taken)] := by
  rcases haccept : peer.accept answer s.peer.server with ⟨cause | _, p⟩
  · have hlogged : peer.logged.accept answer s.peer =
        (.error cause, ⟨p, s.peer.log ++ [(answer, false)]⟩) := by
      simp only [Peer.logged, Logged.note, haccept]
      rfl
    rw [reply, hlogged]
    exact ⟨false, .single rfl rfl rfl rfl hopen (fun _ => hfails.dead_accept haccept) fun _ => rfl⟩
  · have hlogged : peer.logged.accept answer s.peer =
        (.ok (), ⟨p, s.peer.log ++ [(answer, true)]⟩) := by
      simp only [Peer.logged, Logged.note, haccept]
      rfl
    have halive : ¬ dead s.peer.server := by
      intro hdead
      obtain ⟨cause, q, hq, -⟩ := hfails.accept_dead answer s.peer.server hdead
      rw [haccept] at hq
      cases hq
    rw [reply, hlogged]
    exact ⟨true, .single rfl rfl rfl rfl hopen Bool.noConfusion fun h => absurd h halive⟩

/-! ## Waits and requests -/

omit hfails in
theorem awaitItem_wrote {deadline : Option Nat} {time : Nat} {s after : Session (Logged σ)}
    (h : s.awaitItem? deadline time = some after) : Wrote dead s after [] := by
  obtain ⟨hclosing, hclock⟩ := awaitItem_closing h
  refine .of_eq ?_ (awaitItem_incoming h).2 hclosing hclock
  unfold awaitItem? at h
  split at h
  · cases h; rfl
  · split at h
    · cases h; rfl
    · cases h

omit hfails in
/-- Who waits in vain says nothing, and may be abandoned by it. -/
theorem awaitNothing_wrote (method : String) (deadline : Option Nat) {s : Session (Logged σ)}
    (hpatient : s.closing = none) (hsilent : deadline = none → s.incoming = []) :
    Wrote dead s (awaitNothing method deadline s).2 [] := by
  obtain ⟨-, -, -, hsent⟩ := awaitNothing_spec method deadline s
  refine .of_silence ?_ hsent (fun _ => ?_) fun habandoned => ?_
  · simp only [awaitNothing, hpatient]
    cases deadline <;> rfl
  · exact (awaitNothing_closing method deadline fun hnone _ => hsilent hnone).imp (·.trans hpatient)
      fun hends => hends.abandoned
  · cases (isAbandoned_of_patient hpatient).symm.trans habandoned

omit hfails in
/-- A server that asks for something is answered. -/
theorem route_asked {id : Nat} {method : String} {v answer : Json}
    (h : route id method v = .asked answer) :
    ∃ theirs result, answer = Message.answer theirs result := by
  unfold route at h
  split at h
  · cases h; exact ⟨_, _, rfl⟩
  · cases h
  · split at h <;> cases h
  · cases h

/-- **In a wait** there is nothing to say but answers to requests of the server. -/
theorem await_wrote (id : Nat) (method : String) (deadline : Option Nat) (arrivals : List Arrival) :
    ∀ s : Session (Logged σ), s.closing = none → ∃ said,
      Wrote dead s (await peer.logged id method deadline arrivals s).2 said ∧
        AreReplies (said.map Prod.fst) := by
  induction arrivals with
  | nil =>
    intro s hpatient
    have hnothing : Wrote dead _ _ [] :=
      awaitNothing_wrote method deadline (s := { s with incoming := [] }) hpatient fun _ => rfl
    exact ⟨[], hnothing.of_same rfl rfl rfl rfl, .nil⟩
  | cons a rest ih =>
    intro s hpatient
    cases ha : s.awaitItem? deadline a.time with
    | none =>
      have hnothing : Wrote dead _ _ [] :=
        awaitNothing_wrote method deadline (s := { s with incoming := a :: rest }) hpatient (by
          rintro rfl
          exact absurd ha (awaitItem_unlimited (s := s) hpatient a.time))
      rw [await_late ha]
      exact ⟨[], hnothing.of_same rfl rfl rfl rfl, .nil⟩
    | some t =>
      have ht : Wrote dead s t [] := awaitItem_wrote ha
      have hpatient' : t.closing = none := (awaitItem_closing ha).1.trans hpatient
      cases hitem : a.item with
      | finish =>
        rw [await_finish ha hitem]
        exact ⟨[], ht.congr rfl rfl rfl rfl, .nil⟩
      | fault cause =>
        rw [await_fault ha hitem]
        exact ⟨[], ht.congr rfl rfl rfl rfl, .nil⟩
      | message v =>
        cases hroute : route id method v with
        | settled result =>
          rw [await_settled ha hitem hroute]
          exact ⟨[], ht.congr rfl rfl rfl rfl, .nil⟩
        | passed =>
          obtain ⟨said, hwrote, hreplies⟩ := ih t hpatient'
          rw [await_passed ha hitem hroute]
          exact ⟨said, ht.trans hwrote, hreplies⟩
        | asked answer =>
          obtain ⟨theirs, result, rfl⟩ := route_asked hroute
          obtain ⟨taken, hreplied⟩ := reply_wrote hfails (Message.answer theirs result)
            (isAbandoned_of_patient hpatient')
          have hone : AreReplies [Message.answer theirs result] :=
            fun m hm => ⟨theirs, result, List.mem_singleton.1 hm⟩
          rcases hreply : t.reply peer.logged (Message.answer theirs result) with
            ⟨fault | _, replied⟩
          -- the answer is the last that was offered, or the wait goes on
          · rw [hreply] at hreplied
            rw [await_refused ha hitem hroute hreply]
            exact ⟨_, ht.trans (hreplied.congr rfl rfl rfl rfl), hone⟩
          · rw [hreply] at hreplied
            obtain ⟨said, hwrote, hreplies⟩ :=
              ih replied ((reply_closing hreply).1.trans hpatient')
            rw [await_asked ha hitem hroute hreply]
            exact ⟨_, (ht.trans hreplied).trans hwrote, hone.append hreplies⟩

/-- **In a request** there is the request to say, and then answers to requests of the server. -/
theorem requestWithin_wrote (limit : Option Nat) (method : String) (params : Json)
    {s : Session (Logged σ)} (hsteady : s.IsSteady) :
    ∃ taken said, Wrote dead s (s.requestWithin peer.logged limit method params).2
        ((Message.request s.nextId method params, taken) :: said) ∧
      AreReplies (said.map Prod.fst) ∧
      (taken = false → ∃ fault,
        (s.requestWithin peer.logged limit method params).1 = .error fault) := by
  obtain ⟨taken, hwrote, hresult⟩ := send_wrote hfails (Message.request s.nextId method params)
    { s with nextId := s.nextId + 1 }
  rcases hsend : { s with nextId := s.nextId + 1 }.send peer.logged
    (Message.request s.nextId method params) with ⟨fault | _, t⟩
  all_goals
    rw [hsend] at hwrote hresult
    simp only [requestWithin, hsend]
  · exact ⟨taken, [], hwrote.of_same rfl rfl rfl rfl, .nil, fun _ => ⟨fault, rfl⟩⟩
  · have hfine : ¬ ∃ fault : Fault, (Except.ok () : Except Fault Unit) = .error fault := by
      rintro ⟨fault, h⟩
      cases h
    obtain ⟨-, rfl, hopen⟩ := hresult.resolve_right (mt And.left hfine)
    -- who says something and gets no fault is patient
    have hpatient : s.closing = none := hsteady.resolve_right (Bool.eq_false_iff.1 hopen)
    obtain ⟨hclosing, -⟩ := send_closing peer.logged (Message.request s.nextId method params)
      { s with nextId := s.nextId + 1 }
    rw [hsend] at hclosing
    obtain ⟨said, hawaited, hreplies⟩ := await_wrote hfails s.nextId method
      (limit.map (t.clock + ·)) t.incoming t (hclosing.trans hpatient)
    exact ⟨true, said, (hwrote.trans hawaited).of_same rfl rfl rfl rfl, hreplies, Bool.noConfusion⟩

end Session

end DeadSymbols
