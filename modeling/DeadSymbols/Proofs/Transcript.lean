import DeadSymbols.Proofs.Abandonment
import DeadSymbols.Proofs.Relay

/-!
# Answers do not depend on timing

A client that waits as long as it needs gets the same answers, and writes the same messages, from
all servers that send the same bytes, whenever and in whatever pieces they send them.

* `Client.transcript`: the answers to calls, and what is written.
* `Client.Respects`, `Client.answer_related`: calls in related sessions have the same answers.
* `Session.Alike`: sessions that differ in nothing but time.
* `Client.transcript_alike`: such sessions have the same transcripts.
* `Client.run_lossless`: what a client consumes of the output of a server.
-/

namespace DeadSymbols

/-- The answer to a call, whatever the call is. -/
inductive Answer where
  | value (result : Except Fault Json)
  | nothing (result : Except Fault Unit)
  | document (result : Except Fault Document)
  | outline (result : Except Fault (Option (List Symbol)))
  | count (result : Except Fault (Option Nat))

namespace Client

variable {σ : Type}

/-- The answer to a call. -/
def answer (client : Client σ) : ClientCall → Session σ → Answer
  | .handshake root options, s => .value (client.handshake root options s).1
  | .request method params, s => .value (client.request method params s).1
  | .notify method params, s => .nothing (client.notify method params s).1
  | .openDocument path, s => .document (client.openDocument path s).1
  | .documentSymbols document, s => .outline (client.documentSymbols document s).1
  | .references document position, s => .count (client.references document position s).1
  | .closeDocument document, s => .nothing (client.closeDocument document s).1
  | .shutdown, s => .nothing (client.shutdown s).1

/-- Makes calls one after another, each of which is given up at some time or never; gives the answer
to each, with all that was written up to then. -/
def transcript (client : Client σ) :
    List (ClientCall × Option Nat) → Session σ → List (Answer × List Json)
  | [], _ => []
  | (call, closing) :: rest, s =>
    let s := { s with closing := closing }
    let after := client.perform call s
    (client.answer call s, after.sent) :: client.transcript rest after

end Client

/-! ## Related sessions -/

/-- Two results are the same, and the sessions that come with them are related. -/
def Session.Related {σ α : Type} (R : Session σ → Session σ → Prop) (r r' : α × Session σ) : Prop :=
  r.1 = r'.1 ∧ R r.2 r'.2

namespace Client

open Session

variable {σ : Type} {client : Client σ} {R : Session σ → Session σ → Prop} {s t : Session σ}

/-- Related sessions stay related when the client says something in both, or reads a file. -/
structure Respects (client : Client σ) (R : Session σ → Session σ → Prop) : Prop where
  notify : ∀ {s t} method params, R s t →
    Related R (client.notify method params s) (client.notify method params t)
  read : ∀ {s t}, R s t → R { s with atHand := max s.atHand (s.clock + 1) }
    { t with atHand := max t.atHand (t.clock + 1) }
  abandoned : ∀ {s t}, R s t → s.isAbandoned = t.isAbandoned

/-- What goes on in the same way from the same results has the same results. -/
theorem related_andThen {α β : Type} {r r' : Except Fault α × Session σ}
    {next : α → Session σ → Except Fault β × Session σ} (h : Related R r r')
    (hnext : ∀ (a : α) {s t : Session σ}, R s t → Related R (next a s) (next a t)) :
    Related R (andThen r next) (andThen r' next) := by
  obtain ⟨result, s⟩ := r
  obtain ⟨result', t⟩ := r'
  obtain ⟨hresult, hst⟩ := h
  cases show result = result' from hresult
  cases result with
  | error fault => exact ⟨rfl, hst⟩
  | ok a => exact hnext a hst

variable (hrespects : client.Respects R)

include hrespects

/-- **A call that makes no request** has the same answer in related sessions. -/
theorem answer_related {call : ClientCall} (hcall : client.requestOf? call = none) (h : R s t) :
    client.answer call s = client.answer call t ∧ R (client.perform call s) (client.perform call t) := by
  cases call with
  | handshake root options =>
    have huri : Uri.ofFolder? root = none := by simpa [requestOf?] using hcall
    have hnothing : Related R (client.handshake root options s) (client.handshake root options t) := by
      unfold handshake
      rw [huri]
      exact ⟨rfl, h⟩
    exact hnothing.imp_left (congrArg Answer.value)
  | notify method params => exact (hrespects.notify method params h).imp_left (congrArg Answer.nothing)
  | closeDocument document => exact (hrespects.notify _ _ h).imp_left (congrArg Answer.nothing)
  | openDocument path =>
    have hopened : Related R (client.openDocument path s) (client.openDocument path t) := by
      unfold openDocument
      rw [hrespects.abandoned h]
      cases Document.ofPath path with
      | error fault => exact ⟨rfl, h⟩
      | ok document =>
        cases t.isAbandoned with
        | true => exact ⟨rfl, h⟩
        | false =>
          cases client.files.readText path with
          | error cause => exact ⟨rfl, hrespects.read h⟩
          | ok text =>
            exact related_andThen (hrespects.notify _ _ (hrespects.read h)) fun _ s t h => ⟨rfl, h⟩
    exact hopened.imp_left (congrArg Answer.document)
  | _ => cases hcall

/-- **A call that makes a request** has the same answer, if the request has the same result. -/
theorem answer_related_of_request {call : ClientCall} {limit : Option Nat} {method : String}
    {params : Json} (hcall : client.requestOf? call = some (limit, method, params))
    (h : Related R (s.requestWithin client.peer limit method params)
      (t.requestWithin client.peer limit method params)) :
    client.answer call s = client.answer call t ∧ R (client.perform call s) (client.perform call t) := by
  cases call with
  | handshake root options =>
    cases huri : Uri.ofFolder? root with
    | none => simp [requestOf?, huri] at hcall
    | some uri =>
      simp only [requestOf?, huri, Option.map_some, Option.some.injEq, Prod.mk.injEq] at hcall
      obtain ⟨rfl, rfl, rfl⟩ := hcall
      have hintroduced : Related R (client.handshake root options s) (client.handshake root options t) := by
        simp only [handshake, huri]
        refine related_andThen h fun result s t h => ?_
        exact related_andThen (hrespects.notify _ _ h) fun _ s t h => ⟨rfl, h⟩
      exact hintroduced.imp_left (congrArg Answer.value)
  | request method params => cases hcall; exact h.imp_left (congrArg Answer.value)
  | documentSymbols document =>
    cases hcall
    have hlisted : Related R (client.documentSymbols document s) (client.documentSymbols document t) :=
      related_andThen h fun _ _ _ h => ⟨rfl, h⟩
    exact hlisted.imp_left (congrArg Answer.outline)
  | references document position =>
    cases hcall
    have hcounted : Related R (client.references document position s)
        (client.references document position t) :=
      related_andThen (related_andThen h fun _ _ _ h => ⟨rfl, h⟩) fun _ _ _ h => ⟨rfl, h⟩
    exact hcounted.imp_left (congrArg Answer.count)
  | shutdown =>
    cases hcall
    have hended : Related R (client.shutdown s) (client.shutdown t) :=
      related_andThen h fun _ s t h => hrespects.notify _ _ h
    exact hended.imp_left (congrArg Answer.nothing)
  | _ => cases hcall

end Client

/-! ## Sessions that differ in time -/

/-- A server to which it makes no difference when it hears something. -/
def Peer.IsTimeless {σ : Type} (peer : Peer σ) : Prop :=
  ∀ time time' message p, peer.hear time message p = peer.hear time' message p

namespace Session

variable {σ : Type} {peer : Peer σ} {s t : Session σ}

/-- Two sessions differ in nothing but time. Nobody gives them up later: both are abandoned, or
neither is. -/
structure Alike (s t : Session σ) : Prop where
  peer : s.peer = t.peer
  items : s.incoming.map Arrival.item = t.incoming.map Arrival.item
  nextId : s.nextId = t.nextId
  sent : s.sent = t.sent
  steady : SameSteady s t

/-- Two results are the same, and so are the sessions but for time. -/
def Agree {α : Type} (r r' : α × Session σ) : Prop := r.1 = r'.1 ∧ r.2.Alike r'.2

/-- Results that agree are both faults or both none. -/
theorem Agree.error_or_ok {α : Type} {r r' : Except Fault α × Session σ} (h : Agree r r') :
    (∃ fault s t, r = (.error fault, s) ∧ r' = (.error fault, t) ∧ s.Alike t) ∨
      ∃ a s t, r = (.ok a, s) ∧ r' = (.ok a, t) ∧ s.Alike t := by
  obtain ⟨result, s⟩ := r
  obtain ⟨result', t⟩ := r'
  obtain ⟨hresult, hst⟩ := h
  cases show result = result' from hresult
  cases result with
  | error fault => exact .inl ⟨fault, s, t, rfl, rfl, hst⟩
  | ok a => exact .inr ⟨a, s, t, rfl, rfl, hst⟩

theorem Alike.with_incoming (h : s.Alike t) {xs ys : List Arrival}
    (hitems : xs.map Arrival.item = ys.map Arrival.item) :
    { s with incoming := xs }.Alike { t with incoming := ys } :=
  { h with items := hitems }

/-- Who is not given up waits for any item. -/
theorem Alike.awaitItem (h : s.Alike t) (hs : s.closing = none) (ht : t.closing = none)
    (time time' : Nat) :
    ∃ after after', s.awaitItem? none time = some after ∧ t.awaitItem? none time' = some after' ∧
      after.Alike after' ∧ after.closing = none ∧ after'.closing = none := by
  have hwait : ∀ (u : Session σ) (time : Nat), u.closing = none →
      ∃ clock atHand, u.awaitItem? none time = some { u with clock := clock, atHand := atHand } := by
    intro u time hpatient
    unfold awaitItem?
    split
    · exact ⟨u.clock, u.atHand, rfl⟩
    · rw [if_pos (by simp [hpatient])]
      exact ⟨_, _, rfl⟩
  obtain ⟨clock, atHand, hwaited⟩ := hwait s time hs
  obtain ⟨clock', atHand', hwaited'⟩ := hwait t time' ht
  exact ⟨_, _, hwaited, hwaited', { h with steady := .inl ⟨hs, ht⟩ }, hs, ht⟩

theorem Alike.reply (h : s.Alike t) (peer : Peer σ) (answer : Json) :
    Agree (s.reply peer answer) (t.reply peer answer) := by
  unfold Session.reply
  rw [h.peer]
  rcases peer.accept answer t.peer with ⟨cause | _, p⟩
  · exact ⟨rfl, { h with peer := rfl }⟩
  · exact ⟨rfl, { h with peer := rfl, sent := congrArg (· ++ [answer]) h.sent }⟩

/-- Who is not given up and waits without limit never waits in vain but for silence, and then has no
end of it. -/
theorem Alike.awaitNothing (h : s.Alike t) (hs : s.closing = none) (ht : t.closing = none)
    (method : String) :
    Agree (Session.awaitNothing method none s) (Session.awaitNothing method none t) := by
  simp only [Session.awaitNothing, hs, ht]
  exact ⟨rfl, { h with steady := .inr ⟨isAbandoned_closing_clock s, isAbandoned_closing_clock t⟩ }⟩

/-- **Waits for the same items** have the same result. -/
theorem Alike.await (id : Nat) (method : String) (xs : List Arrival) :
    ∀ {ys : List Arrival} {s t : Session σ}, s.Alike t → s.closing = none → t.closing = none →
      xs.map Arrival.item = ys.map Arrival.item →
      Agree (await peer id method none xs s) (await peer id method none ys t) := by
  -- the two waits go through the same items, only at other times
  induction xs with
  | nil =>
    intro ys s t h hpatient hpatient' hitems
    obtain rfl : ys = [] := List.map_eq_nil_iff.1 hitems.symm
    exact (h.with_incoming hitems).awaitNothing hpatient hpatient' method
  | cons x xs ih =>
    intro ys s t h hpatient hpatient' hitems
    obtain ⟨y, ys, rfl, hitem, hrest⟩ := List.map_eq_cons_iff.1 hitems.symm
    obtain ⟨after, after', hs, ht, hafter, hopen, hopen'⟩ :=
      h.awaitItem hpatient hpatient' x.time y.time
    cases hx : x.item with
    | finish =>
      rw [await_finish hs hx, await_finish ht (hitem.trans hx)]
      exact ⟨rfl, hafter.with_incoming hitems⟩
    | fault cause =>
      rw [await_fault hs hx, await_fault ht (hitem.trans hx)]
      exact ⟨rfl, hafter.with_incoming hrest.symm⟩
    | message v =>
      cases hroute : route id method v with
      | settled result =>
        rw [await_settled hs hx hroute, await_settled ht (hitem.trans hx) hroute]
        exact ⟨rfl, hafter.with_incoming hrest.symm⟩
      | passed =>
        rw [await_passed hs hx hroute, await_passed ht (hitem.trans hx) hroute]
        exact ih hafter hopen hopen' hrest.symm
      | asked answer =>
        -- the answer to the server is written or not, in both sessions
        rcases (hafter.reply peer answer).error_or_ok with
          ⟨fault, replied, replied', hreply, hreply', hreplied⟩ |
          ⟨_, replied, replied', hreply, hreply', hreplied⟩
        · rw [await_refused hs hx hroute hreply, await_refused ht (hitem.trans hx) hroute hreply']
          exact ⟨rfl, hreplied.with_incoming hrest.symm⟩
        · rw [await_asked hs hx hroute hreply, await_asked ht (hitem.trans hx) hroute hreply']
          exact ih hreplied ((reply_closing hreply).1.trans hopen)
            ((reply_closing hreply').1.trans hopen') hrest.symm

/-- Messages are written in the same way, and what comes because of them is the same. -/
theorem Alike.send (htimeless : peer.IsTimeless) (h : s.Alike t) (message : Json) :
    Agree (s.send peer message) (t.send peer message) := by
  simp only [Session.send, h.steady.isAbandoned]
  cases t.isAbandoned with
  | true => exact ⟨rfl, h⟩
  | false =>
    simp only [Bool.false_eq_true, if_false]
    rw [h.peer, htimeless s.clock t.clock]
    rcases peer.hear t.clock message t.peer with ⟨cause | more, p⟩
    · exact ⟨rfl, { h with peer := rfl }⟩
    · refine ⟨rfl, { h with peer := rfl, items := ?_, sent := congrArg (· ++ [message]) h.sent }⟩
      simp only [List.map_append, h.items]

/-- **Requests without a limit** have the same result. -/
theorem Alike.requestWithin (htimeless : peer.IsTimeless) (h : s.Alike t) (method : String)
    (params : Json) :
    Agree (s.requestWithin peer none method params) (t.requestWithin peer none method params) := by
  rcases h.steady with ⟨hs, ht⟩ | ⟨hs, ht⟩
  · have hids : { s with nextId := s.nextId + 1 }.Alike { t with nextId := t.nextId + 1 } :=
      { h with nextId := congrArg (· + 1) h.nextId }
    obtain ⟨hclosing, -⟩ := send_closing peer (Message.request s.nextId method params)
      { s with nextId := s.nextId + 1 }
    obtain ⟨hclosing', -⟩ := send_closing peer (Message.request s.nextId method params)
      { t with nextId := s.nextId + 1 }
    simp only [Session.requestWithin, ← h.nextId] at hids ⊢
    rcases (hids.send htimeless (Message.request s.nextId method params)).error_or_ok with
      ⟨fault, after, after', hsent, hsent', hafter⟩ | ⟨_, after, after', hsent, hsent', hafter⟩
    all_goals rw [hsent, hsent']
    · exact ⟨rfl, hafter⟩
    · rw [hsent] at hclosing
      rw [hsent'] at hclosing'
      exact hafter.await s.nextId method after.incoming (hclosing.trans hs) (hclosing'.trans ht)
        hafter.items
  · rw [requestWithin_abandoned hs, requestWithin_abandoned ht]
    exact ⟨rfl, { h with nextId := congrArg (· + 1) h.nextId }⟩

end Session

namespace Client

open Session

variable {σ : Type} {client : Client σ} {s t : Session σ}

/-- Such sessions stay so when the client says something in both. -/
theorem respects_alike (htimeless : client.peer.IsTimeless) : client.Respects Session.Alike where
  notify method params h := h.send htimeless (Message.notification method params)
  read h := { h with }
  abandoned h := h.steady.isAbandoned

/-- Only the last exchange has a limit of its own. -/
theorem limit_of_requestOf {call : ClientCall} {limit : Option Nat} {method : String}
    {params : Json} (h : client.requestOf? call = some (limit, method, params)) :
    limit = client.requestLimit ∨ call = .shutdown ∧ limit = some client.shutdownLimit := by
  cases call with
  | handshake root options =>
    cases huri : Uri.ofFolder? root with
    | none => simp [requestOf?, huri] at h
    | some uri =>
      simp only [requestOf?, huri, Option.map_some, Option.some.injEq, Prod.mk.injEq] at h
      exact .inl h.1.symm
  | shutdown => cases h; exact .inr ⟨rfl, rfl⟩
  | request method params => cases h; exact .inl rfl
  | documentSymbols document => cases h; exact .inl rfl
  | references document position => cases h; exact .inl rfl
  | _ => cases h

/-- **A call without a limit** gives the same answer. -/
theorem answer_alike (hlimit : client.requestLimit = none) (htimeless : client.peer.IsTimeless)
    (h : s.Alike t) {call : ClientCall} (hcall : call ≠ .shutdown) :
    client.answer call s = client.answer call t ∧
      (client.perform call s).Alike (client.perform call t) := by
  cases hrequest : client.requestOf? call with
  | none => exact answer_related (respects_alike htimeless) hrequest h
  | some request =>
    obtain ⟨limit, method, params⟩ := request
    obtain rfl : limit = none := by
      rcases limit_of_requestOf hrequest with rfl | ⟨hshutdown, -⟩
      · exact hlimit
      · exact absurd hshutdown hcall
    exact answer_related_of_request (respects_alike htimeless) hrequest
      (h.requestWithin htimeless method params)

/-- **Sessions that differ in nothing but time have the same transcripts.** -/
theorem transcript_alike (hlimit : client.requestLimit = none)
    (htimeless : client.peer.IsTimeless) {calls : List (ClientCall × Option Nat)}
    (hcalls : ∀ c ∈ calls, c.1 ≠ .shutdown ∧ c.2 = none) :
    ∀ {s t : Session σ}, s.Alike t → client.transcript calls s = client.transcript calls t := by
  induction calls with
  | nil => exact fun _ => rfl
  | cons c rest ih =>
    intro s t h
    obtain ⟨call, closing⟩ := c
    obtain ⟨⟨hcall, hpatient⟩, hrest⟩ := List.forall_mem_cons.1 hcalls
    have hpatient' : { s with closing := closing }.Alike { t with closing := closing } :=
      { h with steady := .inl ⟨hpatient, hpatient⟩ }
    obtain ⟨hanswer, hafter⟩ := answer_alike hlimit htimeless hpatient' hcall
    simp only [transcript]
    rw [hanswer, hafter.sent, ih hrest hafter]

end Client

/-! ## The output of a server -/

/-- Sessions with servers that send the same bytes and end in the same way differ in nothing but
time. -/
theorem Session.alike_opened {σ : Type} (server : σ) {chunks chunks' : List Chunk}
    (h : chunks.flatMap Chunk.bytes = chunks'.flatMap Chunk.bytes) (ending : Ending) :
    (Session.opened server chunks ending).Alike (.opened server chunks' ending) where
  peer := rfl
  items := by
    show (arrivals chunks ending).map Arrival.item = (arrivals chunks' ending).map Arrival.item
    rw [arrivals_items, arrivals_items, h]
  nextId := rfl
  sent := rfl
  steady := .inl ⟨rfl, rfl⟩

/-- **No message is lost, doubled, moved or split.** Let a server send any bytes in any pieces at
any times, let messages to it fail, and let a client make any calls, each of which may be given up
at some time or time out. The messages that the client consumes, and after them those that it
leaves, are the messages that are read from the bytes one after another, up to the first fault or
the end. It is the same for any queue between the reader and the client: the items of the bytes are
received in order, each once, and a client waits in vain only if there are no more. A client that
waits for each answer as long as it takes gets the same answers and writes the same messages when
the same bytes come in other pieces or at other times. -/
theorem Client.run_lossless {σ : Type} (client : Client σ) (hsilent : client.peer.IsSilent)
    (server : σ) (chunks : List Chunk) (ending : Ending)
    (calls : List (ClientCall × Option Nat)) :
    let bytes := chunks.flatMap Chunk.bytes
    let exchanges := (client.run calls (.opened server chunks ending)).1
    let last := (client.run calls (.opened server chunks ending)).2
    (∀ reads, bytes.length < reads →
      (exchanges.flatMap Exchange.consumed).filterMap Arrival.message? ++
        last.incoming.filterMap Arrival.message? = Item.messages (Frame.readMany reads bytes)) ∧
    (∀ capacity received relay, Relay.Runs capacity ending (.start chunks) received relay →
      (∃ again, received ++ relay.left ending =
        (arrivals chunks ending).map Arrival.item ++ List.replicate again .finish) ∧
      (0 < capacity → relay.IsStuck capacity ending → relay.left ending = [])) ∧
    (client.requestLimit = none → client.peer.IsTimeless →
      (∀ c ∈ calls, c.1 ≠ .shutdown ∧ c.2 = none) →
      ∀ chunks', chunks'.flatMap Chunk.bytes = bytes →
        client.transcript calls (.opened server chunks' ending) =
          client.transcript calls (.opened server chunks ending)) := by
  intro bytes exchanges last
  refine ⟨fun reads hreads => client.run_messages hsilent server chunks ending calls hreads, ?_, ?_⟩
  · intro capacity received relay hruns
    have hstart : (Relay.start chunks).left ending = (arrivals chunks ending).map Arrival.item := by
      rw [arrivals_items]
      rfl
    refine ⟨?_, fun hcapacity hstuck => Relay.left_of_stuck hcapacity hstuck⟩
    rw [← hstart]
    exact hruns.received
  · intro hlimit htimeless hcalls chunks' hbytes
    exact client.transcript_alike hlimit htimeless hcalls (Session.alike_opened server hbytes ending)

/-- It makes no difference when a server with a fixed output hears something. -/
theorem Stream.isTimeless_peer : Stream.peer.IsTimeless := fun _ _ _ _ => rfl

/-- A client that waits as long as it needs. -/
def patientClient : Client Stream := { hastyClient with requestLimit := none }

/-- Two answers. The first one holds a character of two bytes and is cut in the middle of it; its
last part comes with the second one. -/
def halves : List Chunk :=
  let first := Frame.bytes (Message.answer (.integer 1) (.text "é"))
  let second := Frame.bytes (Message.answer (.integer 2) (.integer 8))
  [⟨5, first.take (first.length - 3)⟩, ⟨15, first.drop (first.length - 3) ++ second⟩]

/-- A request times out while half of its answer is there. The next one consumes this answer and its
own, and a client that waits gets the same answers from the halves as from one piece. -/
theorem Client.run_lossless_halves :
    let calls := [(.request "a" .null, none), (.request "b" .null, none)]
    let exchanges := (hastyClient.run calls (.opened ⟨none⟩ halves .finished)).1
    let last := (hastyClient.run calls (.opened ⟨none⟩ halves .finished)).2
    exchanges.map (fun e => (e.consumed.length, numberOf e.result)) = [(0, none), (2, some 8)] ∧
      (exchanges.flatMap Exchange.consumed).filterMap Arrival.message? ++
          last.incoming.filterMap Arrival.message? =
        Item.messages (Frame.readMany 1000 (halves.flatMap Chunk.bytes)) ∧
      patientClient.transcript calls
          (.opened ⟨none⟩ [⟨0, halves.flatMap Chunk.bytes⟩] .finished) =
        patientClient.transcript calls (.opened ⟨none⟩ halves .finished) := by
  intro calls exchanges last
  obtain ⟨hmessages, -⟩ :=
    hastyClient.run_lossless Stream.isSilent_peer ⟨none⟩ halves .finished calls
  obtain ⟨-, -, hsame⟩ :=
    patientClient.run_lossless Stream.isSilent_peer ⟨none⟩ halves .finished calls
  have hcalls : ∀ c ∈ calls, c.1 ≠ .shutdown ∧ c.2 = none := by
    intro c hc
    rcases List.mem_cons.1 hc with rfl | hc
    · exact ⟨ClientCall.noConfusion, rfl⟩
    · rw [List.mem_singleton.1 hc]
      exact ⟨ClientCall.noConfusion, rfl⟩
  exact ⟨by decide +kernel, hmessages 1000 (by decide +kernel),
    hsame rfl Stream.isTimeless_peer hcalls _ (List.append_nil _)⟩

end DeadSymbols
