import DeadSymbols.Proofs.Hangup
import DeadSymbols.Proofs.Heeding

/-!
# Deadlines

A request waits for a limited time from the moment at which it is written. What else arrives in the
meantime, how much of it and when, neither extends nor shortens the wait.

* `Item.verdict?`: what an item determines for a wait, if it decides it.
* `Session.IsPunctual`: nothing that is still to come is at hand.
* `Session.await_decided`, `Session.await_expired`: waits that end in time, and waits that do not.
* `Client.conclude`: the answer to a call whose request has a result.
* `Client.deadline_is_absolute`: calls with a limit at any point of a conversation.
-/

namespace DeadSymbols

/-! ## What decides a wait -/

/-- What a message determines for the wait of request `id`, if it decides it: it is the answer to
the request, or it has neither a text as its method nor an id. -/
def Json.verdict? (id : Nat) (method : String) (v : Json) : Option (Except Fault Json) :=
  match (v.get? "method").bind Json.asText?, v.get? "id" with
  | some _, _ => none
  | none, none => some (.error (.protocol (.unaddressed v)))
  | none, some theirs =>
    if theirs.asInt64? = some (id : Int) then some (Route.resultOf method v) else none

/-- The same for an item. The end of the output and a fault in it decide every wait. -/
def Item.verdict? (id : Nat) (method : String) : Item → Option (Except Fault Json)
  | .finish => some (.error .closed)
  | .fault cause => some (.error cause)
  | .message v => v.verdict? id method

/-- The messages that decide a wait are those that settle it. -/
theorem route_verdict (id : Nat) (method : String) (v : Json) :
    match v.verdict? id method with
    | some result => route id method v = .settled result
    | none => ∀ result, route id method v ≠ .settled result := by
  unfold Json.verdict? route
  cases (v.get? "method").bind Json.asText? with
  | some asked => cases v.get? "id" <;> simp
  | none =>
    cases v.get? "id" with
    | none => rfl
    | some theirs => by_cases hmine : theirs.asInt64? = some (id : Int) <;> simp [hmine]

/-- A server takes the next messages that are written to it, and says nothing because of them. -/
def Peer.Takes {σ : Type} (peer : Peer σ) : Nat → σ → Prop
  | 0, _ => True
  | n + 1, p =>
    (∀ time message, ∃ q, peer.hear time message p = (.ok [], q) ∧ peer.Takes n q) ∧
      ∀ answer, ∃ q, peer.accept answer p = (.ok (), q) ∧ peer.Takes n q

theorem Peer.Takes.mono {σ : Type} {peer : Peer σ} {m n : Nat} (h : m ≤ n) {p : σ}
    (hp : peer.Takes n p) : peer.Takes m p := by
  induction m generalizing n p with
  | zero => trivial
  | succ m ih =>
    obtain ⟨n, rfl⟩ := Nat.exists_eq_add_one.2 (Nat.lt_of_lt_of_le (Nat.succ_pos m) h)
    have hle : m ≤ n := Nat.le_of_succ_le_succ h
    obtain ⟨hhear, haccept⟩ := hp
    refine ⟨fun time message => ?_, fun answer => ?_⟩
    · obtain ⟨q, hq, htakes⟩ := hhear time message
      exact ⟨q, hq, ih hle htakes⟩
    · obtain ⟨q, hq, htakes⟩ := haccept answer
      exact ⟨q, hq, ih hle htakes⟩

namespace Session

variable {σ : Type} {peer : Peer σ}

/-! ## Punctual sessions -/

/-- What is at hand has arrived by now. -/
def IsPunctual (s : Session σ) : Prop := s.atHand ≤ s.clock + 1

theorem IsPunctual.of_same {s t : Session σ} (h : s.IsPunctual) (hclock : t.clock = s.clock)
    (hatHand : t.atHand = s.atHand) : t.IsPunctual := by
  unfold IsPunctual
  rw [hclock, hatHand]
  exact h

theorem awaitItem_punctual {deadline : Option Nat} {time : Nat} {s t : Session σ}
    (h : s.IsPunctual) (hthere : s.awaitItem? deadline time = some t) : t.IsPunctual := by
  unfold awaitItem? at hthere
  split at hthere
  · cases hthere
    exact h
  · split at hthere
    · cases hthere
      exact Nat.le_refl _
    · cases hthere

theorem awaitNothing_punctual (method : String) (deadline : Option Nat) {s : Session σ}
    (h : s.IsPunctual) : (awaitNothing method deadline s).2.IsPunctual := by
  have hwaited (time : Nat) :
      IsPunctual { s with clock := max s.clock time, atHand := max s.atHand time } := by
    unfold IsPunctual at h ⊢
    dsimp only
    omega
  unfold awaitNothing
  split
  · split
    · exact hwaited _
    · exact hwaited _
  · exact hwaited _
  · exact hwaited _
  · exact h

theorem reply_punctual (peer : Peer σ) (answer : Json) {s : Session σ} (h : s.IsPunctual) :
    (s.reply peer answer).2.IsPunctual := by
  unfold reply
  split
  · exact h
  · exact h

theorem send_punctual (peer : Peer σ) (message : Json) {s : Session σ} (h : s.IsPunctual) :
    (s.send peer message).2.IsPunctual := by
  unfold send
  split
  · exact h
  · split
    · exact h
    · exact h

/-- **A wait** only brings to hand what has arrived. -/
theorem await_punctual (id : Nat) (method : String) (deadline : Option Nat)
    (arrivals : List Arrival) {s : Session σ} (h : s.IsPunctual) :
    (await peer id method deadline arrivals s).2.IsPunctual := by
  fun_induction await peer id method deadline arrivals s with
  | case1 s => exact awaitNothing_punctual method deadline h
  | case2 a rest s hnone => exact awaitNothing_punctual method deadline h
  | case3 a rest s t hthere hitem => exact (awaitItem_punctual h hthere).of_same rfl rfl
  | case4 a rest s t hthere cause hitem => exact (awaitItem_punctual h hthere).of_same rfl rfl
  | case5 a rest s t hthere v hitem result hroute =>
    exact (awaitItem_punctual h hthere).of_same rfl rfl
  | case6 a rest s t hthere v hitem hroute ih => exact ih (awaitItem_punctual h hthere)
  | case7 a rest s t hthere v hitem answer hroute fault u hreply =>
    have hu := reply_punctual peer answer (awaitItem_punctual h hthere)
    rw [hreply] at hu
    exact hu
  | case8 a rest s t hthere v hitem answer hroute u hreply ih =>
    have hu := reply_punctual peer answer (awaitItem_punctual h hthere)
    rw [hreply] at hu
    exact ih hu

theorem requestWithin_punctual (limit : Option Nat) (method : String) (params : Json)
    {s : Session σ} (h : s.IsPunctual) :
    (s.requestWithin peer limit method params).2.IsPunctual := by
  have hwritten := send_punctual peer (Message.request s.nextId method params)
    (s := { s with nextId := s.nextId + 1 }) h
  rcases hsend : { s with nextId := s.nextId + 1 }.send peer
    (Message.request s.nextId method params) with ⟨fault | _, t⟩
  all_goals
    rw [hsend] at hwritten
    simp only [requestWithin, hsend]
  · exact hwritten
  · exact await_punctual _ _ _ _ hwritten

theorem Tells.punctual {s t : Session σ} (h : s.Tells peer t) (hs : s.IsPunctual) :
    t.IsPunctual := by
  induction h with
  | refl => exact hs
  | read _ ih => exact Nat.max_le.2 ⟨ih, Nat.le_refl _⟩
  | notify _ method params ih => exact send_punctual peer _ ih

/-! ## Steps of waits with a deadline -/

/-- An item is there by the deadline, or the wait for it is in vain. In either case the client has
not waited longer than needed. -/
theorem awaitItem_deadline {deadline : Nat} (time : Nat) {s : Session σ}
    (hpatient : s.closing = none) (hpunctual : s.IsPunctual) (hclock : s.clock ≤ deadline) :
    (time ≤ deadline ∧ ∃ t, s.awaitItem? (some deadline) time = some t ∧
      t.clock = max s.clock time ∧ t.IsPunctual ∧ t.closing = none ∧ t.peer = s.peer) ∨
    (deadline ≤ time ∧ s.awaitItem? (some deadline) time = none) := by
  unfold IsPunctual at hpunctual
  unfold awaitItem?
  rw [hpatient]
  by_cases hthere : time < s.atHand
  · have htime : time ≤ s.clock := by omega
    refine .inl ⟨Nat.le_trans htime hclock, s, if_pos hthere, (Nat.max_eq_left htime).symm,
      hpunctual, hpatient, rfl⟩
  · rw [if_neg hthere]
    by_cases hearly : time < deadline
    · exact .inl ⟨Nat.le_of_lt hearly, _, if_pos (by simpa using hearly), rfl, Nat.le_refl _, rfl,
        rfl⟩
    · exact .inr ⟨Nat.le_of_not_lt hearly, if_neg (by simpa using hearly)⟩

theorem awaitNothing_expired {method : String} {deadline : Nat} {s : Session σ}
    (hpatient : s.closing = none) (hclock : s.clock ≤ deadline) :
    let r := awaitNothing method (some deadline) s
    r.1 = .error (.timeout method) ∧ r.2.clock = deadline ∧ r.2.closing = none := by
  unfold awaitNothing
  rw [hpatient]
  exact ⟨rfl, Nat.max_eq_right hclock, rfl⟩

/-- A message that does not decide the wait is consumed, and the wait goes on. If it is a request of
the server it is answered, and the server takes one message less. -/
theorem await_undecided {id : Nat} {method : String} {deadline : Option Nat} {a : Arrival}
    (rest noise : List Arrival) {s t : Session σ} {n : Nat}
    (ha : s.awaitItem? deadline a.time = some t) (hpunctual : t.IsPunctual)
    (hnone : a.item.verdict? id method = none)
    (htakes : peer.Takes ((repliesTo ((a :: noise).map Arrival.item)).length + n) t.peer) :
    ∃ u, await peer id method deadline (a :: rest) s = await peer id method deadline rest u ∧
      u.clock = t.clock ∧ u.IsPunctual ∧ u.closing = t.closing ∧
      peer.Takes ((repliesTo (noise.map Arrival.item)).length + n) u.peer := by
  cases hitem : a.item with
  | finish =>
    rw [hitem] at hnone
    cases hnone
  | fault cause =>
    rw [hitem] at hnone
    cases hnone
  | message v =>
    rw [hitem] at hnone
    rw [List.map_cons, hitem, repliesTo_message, List.length_append, Nat.add_assoc] at htakes
    have hunsettled := route_verdict id method v
    rw [show v.verdict? id method = none from hnone] at hunsettled
    have hroute := route_reply id method v
    cases hreply : v.reply? with
    | some answer =>
      rw [hreply] at hroute htakes
      rw [Option.toList_some, List.length_singleton, Nat.add_comm] at htakes
      obtain ⟨q, haccept, hq⟩ := htakes.2 answer
      have hwritten : t.reply peer answer =
          (.ok (), { t with peer := q, sent := t.sent ++ [answer] }) := by
        rw [reply, haccept]
      exact ⟨_, await_asked ha hitem hroute hwritten, rfl, hpunctual, rfl, hq⟩
    | none =>
      rw [hreply] at hroute htakes
      have hpassed : route id method v = .passed := by
        rcases hroute with hpassed | ⟨result, hsettled⟩
        · exact hpassed
        · exact absurd hsettled (hunsettled result)
      exact ⟨t, await_passed ha hitem hpassed, rfl, hpunctual, rfl,
        htakes.mono (Nat.le_add_left _ _)⟩

/-- An item that decides the wait ends it. -/
theorem await_verdict (peer : Peer σ) {id : Nat} {method : String} {deadline : Option Nat}
    {a : Arrival} (rest : List Arrival) {s t : Session σ} {result : Except Fault Json}
    (ha : s.awaitItem? deadline a.time = some t) (hsome : a.item.verdict? id method = some result) :
    let r := await peer id method deadline (a :: rest) s
    r.1 = result ∧ r.2.clock = t.clock ∧ r.2.closing = t.closing ∧ r.2.peer = t.peer := by
  cases hitem : a.item with
  | finish =>
    rw [hitem] at hsome
    cases hsome
    rw [await_finish ha hitem]
    exact ⟨rfl, rfl, rfl, rfl⟩
  | fault cause =>
    rw [hitem] at hsome
    cases hsome
    rw [await_fault ha hitem]
    exact ⟨rfl, rfl, rfl, rfl⟩
  | message v =>
    rw [hitem] at hsome
    have hroute := route_verdict id method v
    rw [show v.verdict? id method = some result from hsome] at hroute
    rw [await_settled ha hitem hroute]
    exact ⟨rfl, rfl, rfl, rfl⟩

/-! ## Waits -/

section Waits

variable {id : Nat} {method : String} {deadline : Nat}

/-- **A wait that is decided before its deadline** ends when the item that decides it is there. -/
theorem await_decided {before after : List Arrival} {a : Arrival} {result : Except Fault Json}
    {n : Nat} (hbefore : ∀ b ∈ before, b.time ≤ a.time ∧ b.item.verdict? id method = none)
    (ha : a.item.verdict? id method = some result) (hintime : a.time < deadline) :
    ∀ {s : Session σ}, s.closing = none → s.IsPunctual → s.clock ≤ deadline →
      peer.Takes ((repliesTo (before.map Arrival.item)).length + n) s.peer →
      let r := await peer id method (some deadline) (before ++ a :: after) s
      r.1 = result ∧ r.2.clock = max s.clock a.time ∧ r.2.closing = none ∧
        peer.Takes n r.2.peer := by
  induction before with
  | nil =>
    intro s hpatient hpunctual hclock htakes
    rcases awaitItem_deadline a.time hpatient hpunctual hclock with
      ⟨-, t, hthere, htime, -, hclosing, hpeer⟩ | ⟨hlate, -⟩
    · obtain ⟨hresult, hclock', hclosing', hpeer'⟩ :=
        await_verdict peer after hthere ha
      refine ⟨hresult, hclock'.trans htime, hclosing'.trans hclosing, ?_⟩
      rw [List.nil_append, hpeer', hpeer]
      exact htakes.mono (Nat.le_add_left _ _)
    · exact absurd hintime (Nat.not_lt.2 hlate)
  | cons b before ih =>
    intro s hpatient hpunctual hclock htakes
    obtain ⟨⟨hordered, hnone⟩, hbefore⟩ := List.forall_mem_cons.1 hbefore
    rcases awaitItem_deadline b.time hpatient hpunctual hclock with
      ⟨htime, t, hthere, hclock', hpunctual', hclosing, hpeer⟩ | ⟨hlate, -⟩
    · obtain ⟨u, hawait, huclock, hupunctual, huclosing, hutakes⟩ := await_undecided
        (before ++ a :: after) before hthere hpunctual' hnone (hpeer ▸ htakes)
      have hnow : u.clock = max s.clock b.time := huclock.trans hclock'
      obtain ⟨hresult, hend, hdone⟩ := ih hbefore (huclosing.trans hclosing) hupunctual
        (hnow ▸ Nat.max_le.2 ⟨hclock, htime⟩) hutakes
      rw [List.cons_append, hawait]
      refine ⟨hresult, hend.trans ?_, hdone⟩
      rw [hnow, Nat.max_assoc, Nat.max_eq_right hordered]
    · omega

/-- **A wait that is not decided by its deadline** ends then. -/
theorem await_expired {arrivals : List Arrival}
    (hlate : ∀ a ∈ arrivals, ∀ result, a.item.verdict? id method = some result →
      deadline < a.time) :
    ∀ {s : Session σ}, s.closing = none → s.IsPunctual → s.clock ≤ deadline →
      peer.Takes (repliesTo ((arrivals.filter (·.time ≤ deadline)).map Arrival.item)).length
        s.peer →
      let r := await peer id method (some deadline) arrivals s
      r.1 = .error (.timeout method) ∧ r.2.clock = deadline ∧ r.2.closing = none := by
  induction arrivals with
  | nil =>
    intro s hpatient _ hclock _
    exact awaitNothing_expired (s := { s with incoming := [] }) hpatient hclock
  | cons a rest ih =>
    intro s hpatient hpunctual hclock htakes
    obtain ⟨ha, hrest⟩ := List.forall_mem_cons.1 hlate
    rcases awaitItem_deadline a.time hpatient hpunctual hclock with
      ⟨htime, t, hthere, hclock', hpunctual', hclosing, hpeer⟩ | ⟨-, hgone⟩
    · have hnone : a.item.verdict? id method = none :=
        Option.eq_none_iff_forall_ne_some.2 fun result h =>
          absurd htime (Nat.not_le.2 (ha result h))
      rw [List.filter_cons_of_pos (by simpa using htime), ← hpeer] at htakes
      obtain ⟨u, hawait, huclock, hupunctual, huclosing, hutakes⟩ := await_undecided
        (n := 0) rest _ hthere hpunctual' hnone htakes
      rw [hawait]
      refine ih hrest (huclosing.trans hclosing) hupunctual ?_ hutakes
      rw [huclock, hclock']
      exact Nat.max_le.2 ⟨hclock, htime⟩
    · rw [await_late hgone]
      exact awaitNothing_expired (s := { s with incoming := a :: rest }) hpatient hclock

end Waits

/-! ## Requests -/

section Requests

variable {s : Session σ} {limit n : Nat} {method : String}

/-- A message that the server takes is written. -/
theorem send_takes (message : Json) (hpatient : s.closing = none)
    (htakes : peer.Takes (n + 1) s.peer) : ∃ q, peer.Takes n q ∧
      s.send peer message = (.ok (), { s with peer := q, sent := s.sent ++ [message] }) := by
  obtain ⟨q, hhear, hq⟩ := htakes.1 s.clock message
  have habandoned := isAbandoned_of_patient hpatient
  refine ⟨q, hq, ?_⟩
  simp only [send, habandoned, hhear, Bool.false_eq_true, if_false, List.append_nil]

/-- A request that is written is a wait from then on. -/
theorem requestWithin_written (limit : Nat) (method : String) (params : Json)
    (hpatient : s.closing = none) (htakes : peer.Takes (n + 1) s.peer) : ∃ t : Session σ,
      s.requestWithin peer (some limit) method params =
        await peer s.nextId method (some (s.clock + limit)) s.incoming t ∧
      t.clock = s.clock ∧ t.atHand = s.atHand ∧ t.closing = none ∧ peer.Takes n t.peer := by
  obtain ⟨q, hq, hsend⟩ := send_takes (s := { s with nextId := s.nextId + 1 })
    (Message.request s.nextId method params) hpatient htakes
  refine ⟨{ s with
    nextId := s.nextId + 1
    peer := q
    sent := s.sent ++ [Message.request s.nextId method params] }, ?_, rfl, rfl, hpatient, hq⟩
  simp only [requestWithin, hsend]
  rfl

variable (params : Json) (hpatient : s.closing = none) (hpunctual : s.IsPunctual)

include hpatient hpunctual

/-- **A request that is decided in time** ends when the item that decides it is there. -/
theorem requestWithin_decided {before after : List Arrival} {a : Arrival}
    {result : Except Fault Json} (hincoming : s.incoming = before ++ a :: after)
    (hbefore : ∀ b ∈ before, b.time ≤ a.time ∧ b.item.verdict? s.nextId method = none)
    (ha : a.item.verdict? s.nextId method = some result) (hintime : a.time < s.clock + limit)
    (htakes : peer.Takes ((repliesTo (before.map Arrival.item)).length + n + 1) s.peer) :
    let r := s.requestWithin peer (some limit) method params
    r.1 = result ∧ r.2.clock = max s.clock a.time ∧ r.2.closing = none ∧
      peer.Takes n r.2.peer := by
  obtain ⟨t, hwritten, hclock, hatHand, hclosing, ht⟩ :=
    requestWithin_written limit method params hpatient htakes
  rw [hwritten, hincoming, ← hclock]
  exact await_decided hbefore ha (hclock ▸ hintime) hclosing (hpunctual.of_same hclock hatHand)
    (Nat.le_add_right _ _) ht

/-- **A request that is not decided in time** ends with its limit. -/
theorem requestWithin_expired
    (hlate : ∀ a ∈ s.incoming, ∀ result, a.item.verdict? s.nextId method = some result →
      s.clock + limit < a.time)
    (htakes : peer.Takes ((repliesTo
      ((s.incoming.filter (·.time ≤ s.clock + limit)).map Arrival.item)).length + 1) s.peer) :
    let r := s.requestWithin peer (some limit) method params
    r.1 = .error (.timeout method) ∧ r.2.clock = s.clock + limit ∧ r.2.closing = none := by
  obtain ⟨t, hwritten, hclock, hatHand, hclosing, ht⟩ :=
    requestWithin_written limit method params hpatient htakes
  rw [hwritten]
  exact await_expired hlate hclosing (hpunctual.of_same hclock hatHand)
    (hclock ▸ Nat.le_add_right _ _) ht

end Requests

end Session

/-! ## The output of a server -/

/-- Nothing arrives before what is in front of it. -/
theorem arrivalsFrom_ordered (ending : Ending) (chunks : List Chunk) :
    ∀ (reader : Reader) (time : Nat),
      (∀ a ∈ arrivalsFrom ending reader time chunks, time ≤ a.time) ∧
        (arrivalsFrom ending reader time chunks).Pairwise (·.time ≤ ·.time) := by
  -- the items of a chunk are complete at one time
  have hsame (time : Nat) (items : List Item) :
      (items.map (Arrival.mk time)).Pairwise (·.time ≤ ·.time) :=
    List.pairwise_map.2 (List.pairwise_iff_forall_sublist.2 fun _ => Nat.le_refl time)
  induction chunks with
  | nil =>
    intro reader time
    refine ⟨fun a ha => ?_, hsame time _⟩
    obtain ⟨item, -, rfl⟩ := List.mem_map.1 ha
    exact Nat.le_refl time
  | cons chunk rest ih =>
    intro reader time
    let now := max time chunk.time
    obtain ⟨hlater, hordered⟩ := ih (reader.feed chunk.bytes).2 now
    have hfirst : ∀ a ∈ (reader.feed chunk.bytes).1.map (Arrival.mk now), a.time = now := by
      intro a ha
      obtain ⟨item, -, rfl⟩ := List.mem_map.1 ha
      rfl
    refine ⟨fun a ha => Nat.le_trans (Nat.le_max_left time chunk.time) ?_,
      List.pairwise_append.2 ⟨hsame now _, hordered, fun a ha b hb => ?_⟩⟩
    · rcases List.mem_append.1 ha with ha | ha
      · exact Nat.le_of_eq (hfirst a ha).symm
      · exact hlater a ha
    · rw [hfirst a ha]
      exact hlater b hb

/-! ## Calls -/

namespace Client

open Session

variable {σ : Type} {client : Client σ} {s t : Session σ}

/-- The answer to a call whose request has a result. -/
def conclude : ClientCall → Except Fault Json → Answer
  | .documentSymbols _, result => .outline (result.bind fun v =>
    (decoded Outline.ofJson? v).map fun outline => outline.map (·.symbols))
  | .references _ _, result => .count ((result.bind (decoded Location.list?)).bind fun found =>
    .ok (found.map (·.length)))
  | .shutdown, result => .nothing (result.map fun _ => ())
  | _, result => .value result

/-- The answer follows from the result, if the server takes what is to be said after it. -/
theorem answer_concluded {call : ClientCall} {limit : Option Nat} {method : String} {params : Json}
    {result : Except Fault Json}
    (hcall : client.requestOf? call = some (limit, method, params))
    (hrequest : s.requestWithin client.peer limit method params = (result, t))
    (hpatient : t.closing = none) (htakes : ∀ v, result = .ok v → client.peer.Takes 1 t.peer) :
    client.answer call s = conclude call result := by
  have hnotify (v : Json) (hok : result = .ok v) (method : String) (params : Json) :
      (client.notify method params t).1 = .ok () := by
    obtain ⟨q, -, hsend⟩ :=
      send_takes (Message.notification method params) hpatient (htakes v hok)
    exact congrArg Prod.fst hsend
  cases call with
  | handshake root options =>
    cases huri : Uri.ofFolder? root with
    | none => simp [requestOf?, huri] at hcall
    | some uri =>
      simp only [requestOf?, huri, Option.map_some, Option.some.injEq, Prod.mk.injEq] at hcall
      obtain ⟨rfl, rfl, rfl⟩ := hcall
      simp only [answer, handshake, huri, request, hrequest]
      cases result with
      | error fault => rfl
      | ok v =>
        have hsaid := hnotify v rfl "initialized" (.object [])
        rcases hr : client.notify "initialized" (.object []) t with ⟨fault | _, u⟩
        · rw [hr] at hsaid
          cases hsaid
        · simp only [andThen, hr, conclude]
  | request method params =>
    cases hcall
    rw [answer, show client.request method params s = _ from hrequest]
    rfl
  | documentSymbols document =>
    cases hcall
    simp only [answer, documentSymbols, request, hrequest, andThen_pure]
    rfl
  | references document position =>
    cases hcall
    simp only [answer, references, locations, request, hrequest, andThen_pure]
    rfl
  | shutdown =>
    cases hcall
    simp only [answer, shutdown, hrequest]
    cases result with
    | error fault => rfl
    | ok v => exact congrArg Answer.nothing (hnotify v rfl "exit" .null)
  | _ => cases hcall

/-- Nothing that is still to come is at hand after a call. -/
theorem perform_punctual (call : ClientCall) (h : s.IsPunctual) :
    (client.perform call s).IsPunctual := by
  cases hcall : client.requestOf? call with
  | none => exact (perform_tells hcall s).punctual h
  | some request =>
    obtain ⟨limit, method, params⟩ := request
    exact (tells_after_request hcall s).punctual (requestWithin_punctual limit method params h)

theorem Later.punctual {later : Session σ} (h : client.Later s later) (hs : s.IsPunctual) :
    later.IsPunctual :=
  h.keeps (fun _ _ ht => ht) (fun _ call ht => perform_punctual call ht) hs

/-- What is still to come in a conversation is the rest of the output. -/
theorem Later.rest (hsilent : client.peer.IsSilent) {later : Session σ} (h : client.Later s later)
    (hread : Readable s.incoming) : ∃ consumed, s.incoming = consumed ++ later.incoming := by
  obtain ⟨calls, closing, rfl⟩ := h
  exact ⟨_, (run_spec hsilent calls s hread).split⟩

/-- After its request a call takes no time. -/
theorem perform_clock {call : ClientCall} {limit : Option Nat} {method : String} {params : Json}
    (hcall : client.requestOf? call = some (limit, method, params)) :
    (client.perform call s).clock = (s.requestWithin client.peer limit method params).2.clock :=
  (tells_after_request hcall s).closing.2

end Client

/-- **The deadline of a request is absolute.** Let a server send any bytes at any times, and let a
client have made any calls, each of which may have been given up. A call that makes a request with a
limit is decided by the first item that is an answer with the id of the request, a message with
neither a text as its method nor an id, a fault or the end of the output. If this item is complete
before the limit, counted from the moment at which the call is made, the answer is what follows from
the item, and it is there when the item is complete, or at once if it was complete before. If no
such item is complete by then, the call times out exactly then. Other messages make no difference,
however many they are, as long as the server takes the answers to the requests among them. -/
theorem Client.deadline_is_absolute {σ : Type} (client : Client σ) (hsilent : client.peer.IsSilent)
    (server : σ) (chunks : List Chunk) (ending : Ending) {s : Session σ}
    (hlater : client.Later (.opened server chunks ending) s) (hpatient : s.closing = none)
    {call : ClientCall} {limit : Nat} {method : String} {params : Json}
    (hcall : client.requestOf? call = some (some limit, method, params)) :
    (client.requestLimit = some limit ∨ call = .shutdown ∧ limit = client.shutdownLimit) ∧
    (∃ consumed, arrivals chunks ending = consumed ++ s.incoming) ∧
    (∀ before a after result, s.incoming = before ++ a :: after →
      (∀ b ∈ before, b.item.verdict? s.nextId method = none) →
      a.item.verdict? s.nextId method = some result → a.time < s.clock + limit →
      client.peer.Takes ((repliesTo (before.map Arrival.item)).length + 2) s.peer →
      client.answer call s = conclude call result ∧
        (client.perform call s).clock = max s.clock a.time) ∧
    ((∀ a ∈ s.incoming, ∀ result, a.item.verdict? s.nextId method = some result →
        s.clock + limit < a.time) →
      client.peer.Takes ((repliesTo
        ((s.incoming.filter (·.time ≤ s.clock + limit)).map Arrival.item)).length + 1) s.peer →
      client.answer call s = conclude call (.error (.timeout method)) ∧
        (client.perform call s).clock = s.clock + limit) := by
  have hpunctual : s.IsPunctual := hlater.punctual (Nat.zero_le _)
  obtain ⟨consumed, hsplit⟩ := hlater.rest hsilent (readable_arrivals chunks ending)
  refine ⟨?_, ⟨consumed, hsplit⟩,
    fun before a after result hincoming hbefore ha hintime htakes => ?_, fun hlate htakes => ?_⟩
  · rcases limit_of_requestOf hcall with h | ⟨hshutdown, hlimit⟩
    · exact .inl h.symm
    · exact .inr ⟨hshutdown, Option.some.inj hlimit⟩
  · -- what comes before the item that decides the wait comes no later
    have hordered : (before ++ a :: after).Pairwise (·.time ≤ ·.time) := by
      have hall : (consumed ++ s.incoming).Pairwise (·.time ≤ ·.time) := by
        rw [← hsplit]
        exact (arrivalsFrom_ordered ending chunks Reader.start 0).2
      rw [← hincoming]
      exact (List.pairwise_append.1 hall).2.1
    have hnoise : ∀ b ∈ before, b.time ≤ a.time ∧ b.item.verdict? s.nextId method = none :=
      fun b hb => ⟨(List.pairwise_append.1 hordered).2.2 b hb a List.mem_cons_self, hbefore b hb⟩
    obtain ⟨hresult, hclock, hclosing, hrest⟩ :=
      Session.requestWithin_decided (n := 1) params hpatient hpunctual hincoming hnoise ha hintime
        htakes
    exact ⟨answer_concluded hcall (Prod.ext hresult rfl) hclosing fun _ _ => hrest,
      (perform_clock hcall).trans hclock⟩
  · obtain ⟨hresult, hclock, hclosing⟩ :=
      Session.requestWithin_expired params hpatient hpunctual hlate htakes
    exact ⟨answer_concluded hcall (Prod.ext hresult rfl) hclosing fun _ hok => (nomatch hok),
      (perform_clock hcall).trans hclock⟩

/-- A server with a fixed output takes as many messages as there is room for. -/
theorem Stream.takes_peer {n : Nat} : ∀ {stream : Stream}, stream.room = some n →
    Stream.peer.Takes n stream := by
  induction n with
  | zero => exact fun _ => trivial
  | succ n ih =>
    intro stream hroom
    have htake : stream.take = (.ok (), ⟨some n⟩) := by rw [take, hroom]
    refine ⟨fun _ _ => ⟨⟨some n⟩, ?_, ih rfl⟩, fun _ => ⟨⟨some n⟩, htake, ih rfl⟩⟩
    simp only [peer, htake]
    rfl

/-- A notification, a request of the server and an answer that nobody waits for come before the
answer to the first request. Another request comes long after it, and then the answer to the second
one. -/
def chatter : List Chunk :=
  [⟨3, Frame.bytes (.object [("method", .text "log")]) ++
      Frame.bytes (Message.request 1 "ask" .null)⟩,
    ⟨6, Frame.bytes (Message.answer (.integer 9) .null)⟩,
    ⟨7, Frame.bytes (Message.answer (.integer 1) (.integer 8))⟩,
    ⟨4000, Frame.bytes (Message.request 2 "ask" .null)⟩,
    ⟨5008, Frame.bytes (Message.answer (.integer 2) .null)⟩]

/-- The first request has a limit of ten milliseconds, and is answered after seven. The farewell has
one of five seconds, which the request of the server does not extend. -/
theorem Client.deadline_is_absolute_chatter :
    let start : Session Stream := .opened ⟨some 4⟩ chatter .silent
    let s := { hastyClient.perform (.request "a" .null) start with closing := none }
    hastyClient.peer.IsSilent ∧ hastyClient.Later start start ∧ hastyClient.Later start s ∧
      hastyClient.answer (.request "a" .null) start = .value (.ok (.integer 8)) ∧
      (hastyClient.perform (.request "a" .null) start).clock = 7 ∧
      hastyClient.answer .shutdown s = .nothing (.error (.timeout "shutdown")) ∧
      (hastyClient.perform .shutdown s).clock = 5007 := by
  intro start s
  have hs : hastyClient.Later start s := (Later.refl hastyClient start).call _ none
  have hasks : hastyClient.requestOf? (.request "a" .null) = some (some 10, "a", .null) := rfl
  have hparts : hastyClient.requestOf? .shutdown = some (some 5000, "shutdown", .null) := rfl
  obtain ⟨-, -, hdecided, -⟩ := hastyClient.deadline_is_absolute Stream.isSilent_peer ⟨some 4⟩
    chatter .silent (.refl hastyClient start) rfl hasks
  obtain ⟨-, -, -, hexpired⟩ := hastyClient.deadline_is_absolute Stream.isSilent_peer ⟨some 4⟩
    chatter .silent hs rfl hparts
  -- the fourth item decides the first request
  obtain ⟨hbefore, hreplies, hfourth⟩ :
      (start.incoming.take 3).all (fun b => (b.item.verdict? 1 "a").isNone) = true ∧
      (repliesTo ((start.incoming.take 3).map Arrival.item)).length = 1 ∧
      (start.incoming[3]?.bind fun a =>
        ((a.item.verdict? 1 "a").bind numberOf).map fun n => (a.time, n)) = some (7, 8) := by
    decide +kernel
  obtain ⟨a, hget, hmap⟩ := Option.bind_eq_some_iff.1 hfourth
  obtain ⟨n, hnumber, hpair⟩ := Option.map_eq_some_iff.1 hmap
  obtain ⟨result, hresult, hnumber⟩ := Option.bind_eq_some_iff.1 hnumber
  obtain ⟨htime, rfl⟩ : a.time = 7 ∧ n = 8 := Prod.ext_iff.1 hpair
  obtain ⟨v, rfl, hv⟩ : ∃ v, result = .ok v ∧ v.asInt64? = some 8 := by
    cases result with
    | error fault => cases hnumber
    | ok v => exact ⟨v, rfl, hnumber⟩
  obtain rfl : v = .integer 8 := Json.eq_of_asInt64 hv
  obtain ⟨hlength, hfound⟩ := List.getElem?_eq_some_iff.1 hget
  have hsplit : start.incoming = start.incoming.take 3 ++ a :: start.incoming.drop 4 := by
    rw [← hfound, ← List.drop_eq_getElem_cons hlength, List.take_append_drop]
  obtain ⟨hanswer, hclock⟩ := hdecided _ a _ _ hsplit
    (fun b hb => Option.isNone_iff_eq_none.1 (List.all_eq_true.1 hbefore b hb)) hresult
    (by rw [htime]; decide) (by rw [hreplies]; exact (Stream.takes_peer rfl).mono (by decide))
  -- no item decides the second one in time
  obtain ⟨hnow, hroom, hlate, hreplies'⟩ : s.clock = 7 ∧ s.peer.room = some 2 ∧
      s.incoming.all (fun a => (a.item.verdict? s.nextId "shutdown").isNone ||
        decide (s.clock + 5000 < a.time)) = true ∧
      (repliesTo ((s.incoming.filter (·.time ≤ s.clock + 5000)).map Arrival.item)).length = 1 := by
    decide +kernel
  obtain ⟨hanswer', hclock'⟩ := hexpired
    (fun a ha result hsome => by simpa [hsome] using List.all_eq_true.1 hlate a ha)
    (by rw [hreplies']; exact Stream.takes_peer hroom)
  refine ⟨Stream.isSilent_peer, .refl hastyClient start, hs, hanswer, ?_, hanswer', ?_⟩
  · rw [hclock, htime]
    rfl
  · rw [hclock', hnow]

end DeadSymbols
