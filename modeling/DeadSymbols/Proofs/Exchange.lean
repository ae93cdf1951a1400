import DeadSymbols.Session.Client

/-!
# Exchanges

One request of a client and what comes of it, whatever the server sends: other answers, requests
of its own, notifications, faults or nothing.

* `Json.IsAnswer`: the messages that answer a request.
* `Exchange`: a request with the arrivals that the client consumed for it, and the result.
* `Session.exchange_spec`: a result that comes from the server is that of the first answer
  among the arrivals consumed.
* `Session.requestWithin_ok_iff`: a request succeeds just if it consumes an answer without an error.
-/

namespace DeadSymbols

/-- A message answers request `id` if no text says what it asks for and its id is that number. -/
def Json.IsAnswer (id : Nat) (message : Json) : Prop :=
  (message.get? "method").bind Json.asText? = none ∧
    (message.get? "id").bind Json.asInt64? = some (id : Int)

/-- An arrival that is an answer to request `id`. -/
def Arrival.IsAnswer (id : Nat) (a : Arrival) : Prop :=
  ∃ message, a.item = .message message ∧ message.IsAnswer id

/-- A message answers one request only. -/
theorem Arrival.IsAnswer.unique {id id' : Nat} {a : Arrival} (h : a.IsAnswer id)
    (h' : a.IsAnswer id') : id = id' := by
  obtain ⟨message, hitem, -, hid⟩ := h
  obtain ⟨message', hitem', -, hid'⟩ := h'
  rw [hitem] at hitem'
  cases hitem'
  rw [hid] at hid'
  have := Option.some.inj hid'
  omega

/-- Whether a fault is an error in the answer of a server. -/
def Fault.IsServer : Fault → Prop
  | .server _ _ _ => True
  | _ => False

/-- Whether a result comes from an answer. -/
def FromServer : Except Fault Json → Prop
  | .ok _ => True
  | .error fault => fault.IsServer

/-- No item is itself an error in an answer. The reader of a stream never gives such an item. -/
def Readable (arrivals : List Arrival) : Prop :=
  ∀ a ∈ arrivals, ∀ fault, a.item = .fault fault → ¬ fault.IsServer

/-- The last of some arrivals is the first answer to request `id`, and holds the result. -/
def CompletedBy (id : Nat) (method : String) (arrivals : List Arrival)
    (result : Except Fault Json) : Prop :=
  ∃ before answer message, arrivals = before ++ [answer] ∧ answer.item = .message message ∧
    message.IsAnswer id ∧ result = Route.resultOf method message ∧
    ∀ a ∈ before, ¬ a.IsAnswer id

/-- Messages that are answers to requests of the server. -/
def AreReplies (messages : List Json) : Prop :=
  ∀ m ∈ messages, ∃ theirs result, m = Message.answer theirs result

theorem AreReplies.nil : AreReplies [] := fun _ hm => absurd hm List.not_mem_nil

theorem AreReplies.append {xs ys : List Json} (hx : AreReplies xs) (hy : AreReplies ys) :
    AreReplies (xs ++ ys) := fun m hm => (List.mem_append.1 hm).elim (hx m) (hy m)

/-! ## Routing -/

theorem route_answer {id : Nat} {message : Json} (h : message.IsAnswer id) (method : String) :
    route id method message = .settled (Route.resultOf method message) := by
  obtain ⟨hmethod, hid⟩ := h
  unfold route
  cases hm : message.get? "id" with
  | none => rw [hm] at hid; cases hid
  | some theirs =>
    rw [hm, Option.bind_some] at hid
    rw [hmethod]
    simp [hid]

/-- A message that is no answer never settles a request with a result of the server. -/
theorem route_other {id : Nat} {message : Json} (h : ¬ message.IsAnswer id) (method : String) :
    route id method message = .passed ∨
      (∃ theirs result, route id method message = .asked (Message.answer theirs result)) ∨
      ∃ fault, route id method message = .settled (.error fault) ∧ ¬ fault.IsServer := by
  unfold route
  cases hmethod : (message.get? "method").bind Json.asText? with
  | some asked =>
    cases hid : message.get? "id" with
    | some theirs => exact .inr (.inl ⟨theirs, _, rfl⟩)
    | none => exact .inl rfl
  | none =>
    cases hid : message.get? "id" with
    | some theirs =>
      by_cases hmine : theirs.asInt64? = some (id : Int)
      · exact absurd ⟨hmethod, by rw [hid]; exact hmine⟩ h
      · exact .inl (by simp [hmine])
    | none => exact .inr (.inr ⟨_, rfl, not_false⟩)

namespace Session

variable {σ : Type} {peer : Peer σ}

theorem isAbandoned_of_patient {s : Session σ} (h : s.closing = none) : s.isAbandoned = false := by
  rw [isAbandoned, h]

/-! ## Steps of waits -/

section Steps

variable {id : Nat} {method : String} {deadline : Option Nat} {a : Arrival} {rest : List Arrival}
  {s after : Session σ} {v : Json}

theorem await_late (ha : s.awaitItem? deadline a.time = none) :
    await peer id method deadline (a :: rest) s =
      awaitNothing method deadline { s with incoming := a :: rest } := by
  rw [await, ha]

theorem await_finish (ha : s.awaitItem? deadline a.time = some after) (hitem : a.item = .finish) :
    await peer id method deadline (a :: rest) s =
      (.error .closed, { after with incoming := a :: rest }) := by
  simp only [await, ha, hitem]

theorem await_fault {cause : Fault} (ha : s.awaitItem? deadline a.time = some after)
    (hitem : a.item = .fault cause) :
    await peer id method deadline (a :: rest) s =
      (.error cause, { after with incoming := rest }) := by
  simp only [await, ha, hitem]

theorem await_settled {result : Except Fault Json}
    (ha : s.awaitItem? deadline a.time = some after) (hitem : a.item = .message v)
    (hroute : route id method v = .settled result) :
    await peer id method deadline (a :: rest) s = (result, { after with incoming := rest }) := by
  simp only [await, ha, hitem, hroute]

theorem await_passed (ha : s.awaitItem? deadline a.time = some after) (hitem : a.item = .message v)
    (hroute : route id method v = .passed) :
    await peer id method deadline (a :: rest) s = await peer id method deadline rest after := by
  simp only [await, ha, hitem, hroute]

theorem await_refused {answer : Json} {fault : Fault} {replied : Session σ}
    (ha : s.awaitItem? deadline a.time = some after) (hitem : a.item = .message v)
    (hroute : route id method v = .asked answer)
    (hreply : after.reply peer answer = (.error fault, replied)) :
    await peer id method deadline (a :: rest) s =
      (.error fault, { replied with incoming := rest }) := by
  simp only [await, ha, hitem, hroute, hreply]

theorem await_asked {answer : Json} {replied : Session σ}
    (ha : s.awaitItem? deadline a.time = some after) (hitem : a.item = .message v)
    (hroute : route id method v = .asked answer)
    (hreply : after.reply peer answer = (.ok (), replied)) :
    await peer id method deadline (a :: rest) s = await peer id method deadline rest replied := by
  simp only [await, ha, hitem, hroute, hreply]

end Steps

/-! ## Waits -/

theorem awaitItem_incoming {deadline : Option Nat} {time : Nat} {s after : Session σ}
    (h : s.awaitItem? deadline time = some after) :
    after.nextId = s.nextId ∧ after.sent = s.sent := by
  unfold awaitItem? at h
  split at h
  · cases h; exact ⟨rfl, rfl⟩
  · split at h
    · cases h; exact ⟨rfl, rfl⟩
    · cases h

/-- Who waits in vain has no result of the server, and nothing is consumed. -/
theorem awaitNothing_spec (method : String) (deadline : Option Nat) (s : Session σ) :
    let r := awaitNothing method deadline s
    ¬ FromServer r.1 ∧ r.2.incoming = s.incoming ∧ r.2.nextId = s.nextId ∧ r.2.sent = s.sent := by
  unfold awaitNothing
  cases deadline with
  | none => cases hc : s.closing <;> simp [FromServer, Fault.IsServer]
  | some d =>
    cases hc : s.closing with
    | none => simp [FromServer, Fault.IsServer]
    | some c => by_cases hd : d ≤ c <;> simp [hd, FromServer, Fault.IsServer]

theorem reply_fault {answer : Json} {fault : Fault} {s after : Session σ}
    (h : s.reply peer answer = (.error fault, after)) :
    after.nextId = s.nextId ∧ ¬ fault.IsServer ∧ after.sent = s.sent := by
  unfold reply at h
  split at h
  · cases h; exact ⟨rfl, not_false, rfl⟩
  · cases h

theorem reply_ok {answer : Json} {s after : Session σ}
    (h : s.reply peer answer = (.ok (), after)) :
    after.nextId = s.nextId ∧ after.sent = s.sent ++ [answer] := by
  unfold reply at h
  split at h
  · cases h
  · cases h; exact ⟨rfl, rfl⟩

/-- How a wait relates to what it starts with: some arrivals are consumed, requests of the server
are answered, and a result of the server is in the last arrival that is consumed. -/
structure Awaited (id : Nat) (method : String) (arrivals consumed : List Arrival)
    (s : Session σ) (r : Except Fault Json × Session σ) : Prop where
  split : arrivals = consumed ++ r.2.incoming
  nextId : r.2.nextId = s.nextId
  replies : ∃ replies, r.2.sent = s.sent ++ replies ∧ AreReplies replies
  completed : FromServer r.1 → CompletedBy id method consumed r.1

/-- A wait that ends without a result of the server. -/
theorem Awaited.of_not_fromServer {id : Nat} {method : String} {arrivals consumed : List Arrival}
    {s : Session σ} {r : Except Fault Json × Session σ} (hresult : ¬ FromServer r.1)
    (hsplit : arrivals = consumed ++ r.2.incoming) (hid : r.2.nextId = s.nextId)
    (hsent : r.2.sent = s.sent) : Awaited id method arrivals consumed s r :=
  ⟨hsplit, hid, ⟨[], by simp [hsent], .nil⟩, fun h => absurd h hresult⟩

/-- A wait that goes on after an arrival that is no answer. -/
theorem Awaited.cons {id : Nat} {method : String} {rest consumed : List Arrival} {a : Arrival}
    {s middle : Session σ} {replies : List Json} {r : Except Fault Json × Session σ}
    (h : Awaited id method rest consumed middle r) (ha : ¬ a.IsAnswer id)
    (hid : middle.nextId = s.nextId) (hsent : middle.sent = s.sent ++ replies)
    (hreplies : AreReplies replies) : Awaited id method (a :: rest) (a :: consumed) s r := by
  obtain ⟨hsplit, hnext, ⟨more, hmore, hareReplies⟩, hcompleted⟩ := h
  refine ⟨by rw [hsplit]; rfl, hnext.trans hid, ⟨replies ++ more, ?_, hreplies.append hareReplies⟩,
    fun hr => ?_⟩
  · rw [hmore, hsent, List.append_assoc]
  · obtain ⟨before, answer, message, hconsumed, hitem, hanswer, hresult, hfirst⟩ := hcompleted hr
    refine ⟨a :: before, answer, message, by rw [hconsumed]; rfl, hitem, hanswer, hresult, ?_⟩
    intro b hb
    rcases List.mem_cons.1 hb with rfl | hb
    · exact ha
    · exact hfirst b hb

/-- **Waiting for an answer.** Whatever arrives, a result that comes from the server is that of
the first answer to the request. -/
theorem await_spec (peer : Peer σ) (id : Nat) (method : String) (deadline : Option Nat)
    (arrivals : List Arrival) (hread : Readable arrivals) (s : Session σ) :
    ∃ consumed,
      Awaited id method arrivals consumed s (await peer id method deadline arrivals s) := by
  induction arrivals generalizing s with
  | nil =>
    obtain ⟨hresult, hincoming, hid, hsent⟩ :=
      awaitNothing_spec method deadline { s with incoming := [] }
    exact ⟨[], .of_not_fromServer hresult (by rw [await, hincoming]; rfl) hid hsent⟩
  | cons a rest ih =>
    have hrest : Readable rest := fun b hb => hread b (List.mem_cons_of_mem _ hb)
    cases ha : s.awaitItem? deadline a.time with
    | none =>
      obtain ⟨hresult, hincoming, hid, hsent⟩ :=
        awaitNothing_spec method deadline { s with incoming := a :: rest }
      rw [await_late ha]
      exact ⟨[], .of_not_fromServer hresult (by rw [hincoming]; rfl) hid hsent⟩
    | some t =>
      obtain ⟨hid, hsent⟩ := awaitItem_incoming ha
      cases hitem : a.item with
      | finish =>
        rw [await_finish ha hitem]
        exact ⟨[], .of_not_fromServer not_false rfl hid hsent⟩
      | fault cause =>
        rw [await_fault ha hitem]
        exact ⟨[a], .of_not_fromServer (hread a List.mem_cons_self cause hitem) rfl hid hsent⟩
      | message v =>
        -- the first answer settles the request, whatever it holds
        by_cases hv : v.IsAnswer id
        · rw [await_settled ha hitem (route_answer hv method)]
          refine ⟨[a], rfl, hid, ⟨[], by simp [hsent], .nil⟩, fun _ => ?_⟩
          exact ⟨[], a, v, rfl, hitem, hv, rfl, by simp⟩
        · have hno : ¬ a.IsAnswer id := by
            rintro ⟨w, hw, hanswer⟩
            rw [hitem] at hw
            cases hw
            exact hv hanswer
          rcases route_other hv method with hr | ⟨theirs, result, hr⟩ | ⟨fault, hr, hfault⟩
          · obtain ⟨consumed, h⟩ := ih hrest t
            rw [await_passed ha hitem hr]
            exact ⟨a :: consumed, h.cons hno hid (hsent.trans (List.append_nil _).symm) .nil⟩
          -- the answer to the server may not be written, and then the wait is over
          · rcases hreply : t.reply peer (Message.answer theirs result) with ⟨fault | _, replied⟩
            · obtain ⟨hid', hfault, hsent'⟩ := reply_fault hreply
              rw [await_refused ha hitem hr hreply]
              exact ⟨[a], .of_not_fromServer hfault rfl (hid'.trans hid) (hsent'.trans hsent)⟩
            · obtain ⟨hid', hsent'⟩ := reply_ok hreply
              obtain ⟨consumed, h⟩ := ih hrest replied
              rw [await_asked ha hitem hr hreply]
              refine ⟨a :: consumed, h.cons hno (hid'.trans hid) (by rw [hsent', hsent]) ?_⟩
              intro m hm
              exact ⟨theirs, result, List.mem_singleton.1 hm⟩
          · rw [await_settled ha hitem hr]
            exact ⟨[a], .of_not_fromServer hfault rfl hid hsent⟩

end Session

/-! ## Requests -/

/-- A server whose output does not depend on what it hears. Messages to it may fail in any way. -/
def Peer.IsSilent {σ : Type} (peer : Peer σ) : Prop :=
  ∀ time message p, (peer.hear time message p).1 = .ok [] ∨
    ∃ cause, (peer.hear time message p).1 = .error cause

/-- A server in whose `dead` states no message to it is taken. It gets there as soon as one is not
taken, and never leaves them. -/
structure Peer.FailsForGood {σ : Type} (peer : Peer σ) (dead : σ → Prop) : Prop where
  hear_dead : ∀ time message p, dead p →
    ∃ cause q, peer.hear time message p = (.error cause, q) ∧ dead q
  accept_dead : ∀ answer p, dead p → ∃ cause q, peer.accept answer p = (.error cause, q) ∧ dead q
  dead_hear : ∀ {time message p cause q}, peer.hear time message p = (.error cause, q) → dead q
  dead_accept : ∀ {answer p cause q}, peer.accept answer p = (.error cause, q) → dead q

/-- A request and what came of it. -/
structure Exchange where
  id : Nat
  method : String
  params : Json
  /-- Whether the request could be written. -/
  written : Bool
  /-- The arrivals that were consumed during the request. -/
  consumed : List Arrival
  result : Except Fault Json

/-- The message that starts an exchange. -/
def Exchange.request (e : Exchange) : Json := Message.request e.id e.method e.params

/-- Messages that a client writes to ask for something: those with a method and an id. -/
def Json.isRequest (message : Json) : Bool :=
  (message.get? "method").isSome && (message.get? "id").isSome

theorem Message.isRequest_request (id : Nat) (method : String) (params : Json) :
    (Message.request id method params).isRequest = true := rfl

theorem Message.isRequest_notification (method : String) (params : Json) :
    (Message.notification method params).isRequest = false := rfl

theorem Message.isRequest_answer (id result : Json) :
    (Message.answer id result).isRequest = false := rfl

/-- Answers to a server ask for nothing. -/
theorem AreReplies.filter_isRequest {messages : List Json} (h : AreReplies messages) :
    messages.filter Json.isRequest = [] := by
  rw [List.filter_eq_nil_iff]
  intro m hm
  obtain ⟨theirs, result, rfl⟩ := h m hm
  simp [Message.isRequest_answer]

namespace Session

variable {σ : Type} {peer : Peer σ}

/-- The exchange that a request makes. -/
def exchange (peer : Peer σ) (limit : Option Nat) (method : String) (params : Json)
    (s : Session σ) : Exchange :=
  let r := s.requestWithin peer limit method params
  { id := s.nextId
    method := method
    params := params
    written := s.sent.length < r.2.sent.length
    consumed := s.incoming.take (s.incoming.length - r.2.incoming.length)
    result := r.1 }

theorem exchange_consumed {limit : Option Nat} {method : String} {params : Json} {s : Session σ}
    {consumed : List Arrival}
    (h : s.incoming = consumed ++ (s.requestWithin peer limit method params).2.incoming) :
    (s.exchange peer limit method params).consumed = consumed := by
  simp only [exchange]
  rw [h, List.length_append, Nat.add_sub_cancel]
  exact List.take_left' rfl

theorem send_fault {message : Json} {fault : Fault} {s after : Session σ}
    (h : s.send peer message = (.error fault, after)) :
    ¬ fault.IsServer ∧ after.incoming = s.incoming ∧ after.nextId = s.nextId ∧
      after.sent = s.sent := by
  unfold send at h
  split at h
  · cases h; exact ⟨not_false, rfl, rfl, rfl⟩
  · split at h
    · cases h; exact ⟨not_false, rfl, rfl, rfl⟩
    · cases h

/-- What is written to a silent server brings nothing. -/
theorem send_ok (hsilent : peer.IsSilent) {message : Json} {s after : Session σ}
    (h : s.send peer message = (.ok (), after)) :
    after.incoming = s.incoming ∧ after.nextId = s.nextId ∧ after.sent = s.sent ++ [message] := by
  have hhear := hsilent s.clock message s.peer
  unfold send at h
  split at h
  · cases h
  · split at h
    · cases h
    · rename_i more p hp
      rw [hp] at hhear
      rcases hhear with hnone | ⟨cause, hcause⟩
      · cases hnone; cases h
        exact ⟨List.append_nil _, rfl, rfl⟩
      · cases hcause

/-- How an exchange relates to the session before and after it. -/
structure Exchanged (s : Session σ) (e : Exchange) (after : Session σ) : Prop where
  id : e.id = s.nextId
  nextId : after.nextId = s.nextId + 1
  split : s.incoming = e.consumed ++ after.incoming
  requests : after.sent.filter Json.isRequest =
    s.sent.filter Json.isRequest ++ if e.written then [e.request] else []
  unwritten : e.written = false → e.consumed = [] ∧ ¬ FromServer e.result
  completed : FromServer e.result → CompletedBy e.id e.method e.consumed e.result

/-- **A request to a silent server.** It uses up an id even if it is not written, and a result
of the server is that of the first answer among the arrivals that are consumed. -/
theorem exchange_spec (hsilent : peer.IsSilent) (limit : Option Nat) (method : String)
    (params : Json) (s : Session σ) (hread : Readable s.incoming) :
    s.Exchanged (s.exchange peer limit method params)
      (s.requestWithin peer limit method params).2 := by
  rcases hsend : { s with nextId := s.nextId + 1 }.send peer
    (Message.request s.nextId method params) with ⟨fault | _, t⟩
  -- the request is not written, but its id is used up
  · obtain ⟨hfault, hincoming, hid, hsent⟩ := send_fault hsend
    have hr : s.requestWithin peer limit method params = (.error fault, t) := by
      simp only [requestWithin, hsend]
    have hwritten : (s.exchange peer limit method params).written = false := by
      simp [exchange, hr, hsent]
    have hconsumed : (s.exchange peer limit method params).consumed = [] := by
      simp [exchange, hr, hincoming]
    have hresult : ¬ FromServer (s.exchange peer limit method params).result := by
      simp only [exchange, hr]
      exact hfault
    refine ⟨rfl, by rw [hr, hid], by rw [hconsumed, hr, hincoming]; rfl, ?_,
      fun _ => ⟨hconsumed, hresult⟩, fun h => absurd h hresult⟩
    rw [hwritten, hr, hsent]
    simp
  · obtain ⟨hincoming, hid, hsent⟩ := send_ok hsilent hsend
    have hr : s.requestWithin peer limit method params =
        await peer s.nextId method (limit.map (t.clock + ·)) t.incoming t := by
      simp only [requestWithin, hsend]
    obtain ⟨consumed, hsplit, hnext, ⟨replies, hmore, hreplies⟩, hcompleted⟩ :=
      await_spec peer s.nextId method (limit.map (t.clock + ·)) t.incoming
        (by rw [hincoming]; exact hread) t
    rw [← hr] at hsplit hnext hmore hcompleted
    rw [hincoming] at hsplit
    have hwritten : (s.exchange peer limit method params).written = true := by
      simp only [exchange, hmore, hsent, List.length_append, List.length_singleton,
        decide_eq_true_eq]
      omega
    have hconsumed : (s.exchange peer limit method params).consumed = consumed :=
      exchange_consumed hsplit
    refine ⟨rfl, by rw [hnext, hid], by rw [hconsumed]; exact hsplit, ?_,
      fun h => absurd h (by simp [hwritten]), fun h => ?_⟩
    · rw [hwritten, hmore, hsent, List.filter_append, List.filter_append,
        hreplies.filter_isRequest]
      simp [Message.isRequest_request, Exchange.request, exchange]
    · rw [hconsumed]
      exact hcompleted h

/-! ## Requests that succeed -/

/-- The last of some arrivals that were consumed is an answer to request `id` without an error. -/
def GrantedBy (id : Nat) (arrivals left : List Arrival) : Prop :=
  ∃ before answer message, arrivals = before ++ answer :: left ∧ answer.item = .message message ∧
    message.IsAnswer id ∧ message.get? "error" = none

theorem not_grantedBy_self (id : Nat) (arrivals : List Arrival) : ¬ GrantedBy id arrivals arrivals := by
  rintro ⟨before, answer, message, h, -⟩
  have hlength := congrArg List.length h
  rw [List.length_append, List.length_cons] at hlength
  omega

theorem grantedBy_cons {id : Nat} {a : Arrival} {rest : List Arrival} :
    GrantedBy id (a :: rest) rest ↔
      ∃ message, a.item = .message message ∧ message.IsAnswer id ∧ message.get? "error" = none := by
  refine ⟨fun ⟨before, answer, message, h, hanswer⟩ => ?_, fun ⟨message, h⟩ => ⟨[], a, message, rfl, h⟩⟩
  have hlength := congrArg List.length h
  rw [List.length_append, List.length_cons, List.length_cons] at hlength
  obtain rfl : before = [] := List.eq_nil_of_length_eq_zero (by omega)
  cases h
  exact ⟨message, hanswer⟩

/-- An arrival that is no answer is not the last one. -/
theorem grantedBy_cons_of_not {id : Nat} {a : Arrival} {rest left : List Arrival}
    (ha : ¬ a.IsAnswer id) : GrantedBy id (a :: rest) left ↔ GrantedBy id rest left := by
  constructor
  · rintro ⟨before, answer, message, h, hitem, hanswer, hok⟩
    cases before with
    | nil => cases h; exact absurd ⟨message, hitem, hanswer⟩ ha
    | cons b before => cases h; exact ⟨before, answer, message, rfl, hitem, hanswer, hok⟩
  · rintro ⟨before, answer, message, rfl, hanswer⟩
    exact ⟨a :: before, answer, message, rfl, hanswer⟩

theorem awaitNothing_fault (method : String) (deadline : Option Nat) (s : Session σ) :
    (∀ v, (awaitNothing method deadline s).1 ≠ .ok v) ∧
      (awaitNothing method deadline s).2.incoming = s.incoming := by
  obtain ⟨hresult, hincoming, -⟩ := awaitNothing_spec method deadline s
  exact ⟨fun v hv => hresult (hv ▸ trivial), hincoming⟩

/-- A wait succeeds just if the last arrival that it consumes is an answer without an error. -/
theorem await_ok_iff (peer : Peer σ) (id : Nat) (method : String) (deadline : Option Nat)
    (arrivals : List Arrival) : ∀ s : Session σ,
      (∃ v, (await peer id method deadline arrivals s).1 = .ok v) ↔
        GrantedBy id arrivals (await peer id method deadline arrivals s).2.incoming := by
  have hnone : ∀ {s : Session σ},
      (∃ v, (awaitNothing method deadline s).1 = .ok v) ↔
        GrantedBy id s.incoming (awaitNothing method deadline s).2.incoming := by
    intro s
    obtain ⟨hfault, hincoming⟩ := awaitNothing_fault method deadline s
    rw [hincoming]
    exact iff_of_false (fun ⟨v, hv⟩ => hfault v hv) (not_grantedBy_self id _)
  induction arrivals with
  | nil => exact fun s => hnone (s := { s with incoming := [] })
  | cons a rest ih =>
    intro s
    cases ha : s.awaitItem? deadline a.time with
    | none => rw [await_late ha]; exact hnone (s := { s with incoming := a :: rest })
    | some t =>
      cases hitem : a.item with
      | finish =>
        rw [await_finish ha hitem]
        exact iff_of_false (fun ⟨v, hv⟩ => nomatch hv) (not_grantedBy_self id _)
      | fault cause =>
        rw [await_fault ha hitem, grantedBy_cons]
        exact iff_of_false (fun ⟨v, hv⟩ => nomatch hv) (by rw [hitem]; rintro ⟨m, hm, -⟩; cases hm)
      | message v =>
        by_cases hv : v.IsAnswer id
        · rw [await_settled ha hitem (route_answer hv method), grantedBy_cons, hitem, Route.resultOf]
          cases herror : v.get? "error" with
          | none => exact iff_of_true ⟨_, rfl⟩ ⟨v, rfl, hv, herror⟩
          | some e =>
            refine iff_of_false (fun ⟨v, hv⟩ => nomatch hv) ?_
            rintro ⟨m, hm, -, hok⟩
            cases hm
            rw [herror] at hok
            cases hok
        · have hno : ¬ a.IsAnswer id := by
            rintro ⟨w, hw, hanswer⟩
            rw [hitem] at hw
            cases hw
            exact hv hanswer
          have hlast : ¬ GrantedBy id (a :: rest) rest := by
            rw [grantedBy_cons_of_not hno]
            exact not_grantedBy_self id rest
          rcases route_other hv method with hr | ⟨theirs, result, hr⟩ | ⟨fault, hr, -⟩
          · rw [await_passed ha hitem hr, grantedBy_cons_of_not hno]
            exact ih t
          · rcases hreply : t.reply peer (Message.answer theirs result) with ⟨fault | _, replied⟩
            · rw [await_refused ha hitem hr hreply]
              exact iff_of_false (fun ⟨v, hv⟩ => nomatch hv) hlast
            · rw [await_asked ha hitem hr hreply, grantedBy_cons_of_not hno]
              exact ih replied
          · rw [await_settled ha hitem hr]
            exact iff_of_false (fun ⟨v, hv⟩ => nomatch hv) hlast

/-- A request is granted: it is written, and the last arrival that is consumed for it is an answer
without an error. -/
def Granted (peer : Peer σ) (limit : Option Nat) (method : String) (params : Json)
    (s : Session σ) : Prop :=
  let message := Message.request s.nextId method params
  let written := ({ s with nextId := s.nextId + 1 }.send peer message).2
  GrantedBy s.nextId written.incoming (s.requestWithin peer limit method params).2.incoming

/-- **A request succeeds just if it is granted.** -/
theorem requestWithin_ok_iff (peer : Peer σ) (limit : Option Nat) (method : String) (params : Json)
    (s : Session σ) :
    (∃ v, (s.requestWithin peer limit method params).1 = .ok v) ↔
      s.Granted peer limit method params := by
  unfold Granted
  rcases hsend : { s with nextId := s.nextId + 1 }.send peer
    (Message.request s.nextId method params) with ⟨fault | _, t⟩
  all_goals simp only [requestWithin, hsend]
  · exact iff_of_false (fun ⟨v, hv⟩ => nomatch hv) (not_grantedBy_self _ _)
  · exact await_ok_iff peer s.nextId method _ t.incoming t

end Session

/-- A call that only reads the result of an exchange ends with the session of the exchange. -/
theorem Client.andThen_state {σ α β : Type} (exchange : Except Fault α × Session σ)
    (read : α → Except Fault β) :
    (Client.andThen exchange fun a s => (read a, s)).2 = exchange.2 := by
  rcases exchange with ⟨fault | a, s⟩ <;> rfl

/-- After a fault nothing goes on. -/
theorem Client.andThen_fault {σ α β : Type} {exchange : Except Fault α × Session σ} {fault : Fault}
    (h : exchange.1 = .error fault)
    (next : α → Session σ → Except Fault β × Session σ) :
    Client.andThen exchange next = (.error fault, exchange.2) := by
  obtain ⟨result, s⟩ := exchange
  cases show result = .error fault from h
  rfl

/-- Its result is what was read. -/
theorem Client.andThen_pure {σ α β : Type} (result : Except Fault α) (s : Session σ)
    (f : α → Except Fault β) :
    Client.andThen (result, s) (fun a s => (f a, s)) = (result.bind f, s) := by
  cases result <;> rfl

end DeadSymbols
