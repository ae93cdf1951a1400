import DeadSymbols.Proofs.Abandonment
import DeadSymbols.Proofs.Consumption

/-!
# Waits that are not cut short

If all that a server sends is at hand, and it takes whatever is written to it, what a wait consumes
follows from the items alone.

* `Json.reply?`: the answer to a request of the server.
* `heed`: what a wait consumes of some items, and how it ends.
* `Peer.Listens`, `Session.IsCalm`: servers that take everything, and sessions in which all is at
  hand.
* `Session.await_heed`, `Session.requestWithin_heed`: such waits and requests.
-/

namespace DeadSymbols

/-! ## Requests of the server -/

/-- How many settings a request of the server asks for. -/
def Json.itemCount (message : Json) : Nat :=
  match (message.get? "params").bind (·.get? "items") with
  | some (.array items) => items.length
  | _ => 0

/-- The answer to a request of the server, which has a text as its method and any id: null, or as many
nulls as it asks for settings. -/
def Json.reply? (message : Json) : Option Json :=
  match (message.get? "method").bind asText?, message.get? "id" with
  | some asked, some theirs =>
    some (Message.answer theirs (if asked = "workspace/configuration" then
      .array (List.replicate message.itemCount .null) else .null))
  | _, _ => none

theorem Route.answerTo_eq (asked : String) (message : Json) :
    answerTo asked (message.get? "params") = if asked = "workspace/configuration" then
      .array (List.replicate message.itemCount .null) else .null := by
  unfold answerTo
  by_cases hasked : asked = "workspace/configuration"
  · rw [if_pos (by simpa using hasked), if_pos hasked]
    unfold Json.itemCount
    cases (message.get? "params").bind (·.get? "items") with
    | none => rfl
    | some items =>
      cases items with
      | array items => exact congrArg Json.array List.map_const'
      | _ => rfl
  · rw [if_neg (by simpa using hasked), if_neg hasked]

/-- A message is answered if it is a request of the server, and only then. -/
theorem route_reply (id : Nat) (method : String) (message : Json) :
    match message.reply? with
    | some answer => route id method message = .asked answer
    | none => route id method message = .passed ∨
      ∃ result, route id method message = .settled result := by
  unfold Json.reply? route
  cases (message.get? "method").bind Json.asText? with
  | some asked =>
    cases message.get? "id" with
    | some theirs =>
      dsimp only
      rw [Route.answerTo_eq]
    | none => exact .inl rfl
  | none =>
    cases message.get? "id" with
    | some theirs =>
      by_cases hmine : theirs.asInt64? = some (id : Int)
      · exact .inr ⟨_, if_pos (by simpa using hmine)⟩
      · exact .inl (if_neg (by simpa using hmine))
    | none => exact .inr ⟨_, rfl⟩

/-- The answers to the requests among some items. -/
def repliesTo (items : List Item) : List Json :=
  (items.filterMap Item.message?).filterMap Json.reply?

theorem repliesTo_append (xs ys : List Item) :
    repliesTo (xs ++ ys) = repliesTo xs ++ repliesTo ys := by
  rw [repliesTo, List.filterMap_append, List.filterMap_append]
  rfl

theorem repliesTo_message (v : Json) (rest : List Item) :
    repliesTo (.message v :: rest) = v.reply?.toList ++ repliesTo rest := by
  cases h : v.reply? <;> simp [repliesTo, Item.message?, h]

/-! ## Items -/

/-- What a wait makes of some items: those that it consumes, the result if there is one, those that it
leaves, and whether a message settled it. -/
structure Heed where
  heard : List Item := []
  result : Option (Except Fault Json) := none
  left : List Item := []
  settled : Bool := false

/-- What a wait for the answer to request `id` makes of some items. -/
def heed (id : Nat) (method : String) : List Item → Heed
  | [] => {}
  | .finish :: rest => { result := some (.error .closed), left := .finish :: rest }
  | .fault cause :: rest => { heard := [.fault cause], result := some (.error cause), left := rest }
  | .message v :: rest =>
    match route id method v with
    | .settled result =>
      { heard := [.message v], result := some result, left := rest, settled := true }
    | _ =>
      let later := heed id method rest
      { later with heard := .message v :: later.heard }

section Heed

variable {id : Nat} {method : String} {v : Json} {rest : List Item}

theorem heed_settled {result : Except Fault Json} (h : route id method v = .settled result)
    (rest : List Item) : heed id method (.message v :: rest) =
      { heard := [.message v], result := some result, left := rest, settled := true } := by
  rw [heed, h]

/-- A message that does not settle a wait is consumed, and the wait goes on. -/
theorem heed_other (h : ∀ result, route id method v ≠ .settled result) (rest : List Item) :
    heed id method (.message v :: rest) =
      { heed id method rest with heard := .message v :: (heed id method rest).heard } := by
  rw [heed]
  split
  · rename_i result hroute
    exact absurd hroute (h result)
  · rfl

theorem heed_split (items : List Item) :
    (heed id method items).heard ++ (heed id method items).left = items := by
  fun_induction heed id method items with
  | case1 => rfl
  | case2 rest => rfl
  | case3 cause rest => rfl
  | case4 v rest result hroute => rfl
  | case5 v rest later hother ih => exact congrArg (Item.message v :: ·) ih

/-- What settled a wait is the last that it consumed. -/
theorem heed_heard_ne_nil {items : List Item} (h : (heed id method items).settled = true) :
    (heed id method items).heard ≠ [] := by
  fun_induction heed id method items with
  | case1 => cases h
  | case2 rest => cases h
  | case3 cause rest => cases h
  | case4 v rest result hroute => simp
  | case5 v rest later hother ih => simp

/-- A message that would settle a wait is consumed only if it does so. -/
theorem heed_settled_of_mem {items : List Item} {result : Except Fault Json}
    (hv : .message v ∈ (heed id method items).heard) (hroute : route id method v = .settled result) :
    (heed id method items).settled = true := by
  fun_induction heed id method items with
  | case1 => cases hv
  | case2 rest => cases hv
  | case3 cause rest => cases List.mem_singleton.1 hv
  | case4 v rest result hroute => rfl
  | case5 w rest later hother ih =>
    rcases List.mem_cons.1 hv with heq | hv
    · cases heq
      exact absurd hroute (hother result)
    · exact ih hv

end Heed

/-! ## Sessions -/

/-- A server that, as long as it is `ready`, takes whatever is written to it and says nothing because
of it. -/
structure Peer.Listens {σ : Type} (peer : Peer σ) (ready : σ → Prop) : Prop where
  hear : ∀ time message p, ready p → ∃ q, peer.hear time message p = (.ok [], q) ∧ ready q
  accept : ∀ answer p, ready p → ∃ q, peer.accept answer p = (.ok (), q) ∧ ready q

namespace Session

variable {σ : Type} {peer : Peer σ} {ready : σ → Prop}

/-- All that the server sends is at hand, and it takes what is written to it. -/
structure IsCalm (ready : σ → Prop) (s : Session σ) : Prop where
  ready : ready s.peer
  there : ∀ a ∈ s.incoming, a.time ≤ s.clock

/-- How a wait ends that begins when `arrivals` are at hand. -/
structure Heeded (ready : σ → Prop) (deadline : Option Nat) (method : String) (h : Heed)
    (arrivals : List Arrival) (s : Session σ) (r : Except Fault Json × Session σ) : Prop where
  result : r.1 = h.result.getD
    (.error (if deadline.isSome then .timeout method else .unanswered))
  left : r.2.incoming.map Arrival.item = h.left
  suffix : r.2.incoming <:+ arrivals
  sent : r.2.sent = s.sent ++ repliesTo h.heard
  nextId : r.2.nextId = s.nextId
  clock : r.2.clock = if h.result.isSome then s.clock else max s.clock (deadline.getD 0)
  ready : ready r.2.peer
  /-- A wait without a limit and without a result has no end. -/
  steady : if h.result.isSome || deadline.isSome then r.2.closing = none else r.2.isAbandoned = true

/-- Who is not given up and has an item at hand does not wait for it. -/
theorem awaitItem_there {deadline : Option Nat} {time : Nat} {s : Session σ}
    (hpatient : s.closing = none) (htime : time ≤ s.clock) (hdeadline : deadline.all (s.clock < ·)) :
    ∃ atHand, s.awaitItem? deadline time = some { s with atHand := atHand } := by
  unfold awaitItem?
  split
  · exact ⟨s.atHand, rfl⟩
  · have hall : (deadline.all (time < ·) && s.closing.all (time < ·)) = true := by
      rw [hpatient]
      cases deadline with
      | none => rfl
      | some d =>
        have hd : s.clock < d := by simpa using hdeadline
        simpa using Nat.lt_of_le_of_lt htime hd
    rw [if_pos hall]
    exact ⟨s.clock + 1, by simp only [Nat.max_eq_left htime]⟩

theorem awaitNothing_heeded {deadline : Option Nat} {method : String} {s : Session σ}
    (hready : ready s.peer) (hpatient : s.closing = none) (hincoming : s.incoming = []) :
    Heeded ready deadline method {} [] s (awaitNothing method deadline s) := by
  unfold awaitNothing
  rw [hpatient]
  cases deadline with
  | none =>
    exact ⟨rfl, by rw [hincoming]; rfl, hincoming ▸ List.suffix_rfl, (List.append_nil _).symm, rfl,
      (Nat.max_eq_left (Nat.zero_le _)).symm, hready, isAbandoned_closing_clock s⟩
  | some d =>
    exact ⟨rfl, by rw [hincoming]; rfl, hincoming ▸ List.suffix_rfl, (List.append_nil _).symm, rfl,
      rfl, hready, rfl⟩

theorem Heeded.cons {deadline : Option Nat} {method : String} {h : Heed} {a : Arrival}
    {v : Json} {rest : List Arrival} {s t : Session σ} {r : Except Fault Json × Session σ}
    (hrest : Heeded ready deadline method h rest t r) (hsent : t.sent = s.sent ++ v.reply?.toList)
    (hid : t.nextId = s.nextId) (hclock : t.clock = s.clock) :
    Heeded ready deadline method { h with heard := .message v :: h.heard } (a :: rest) s r where
  result := hrest.result
  left := hrest.left
  suffix := hrest.suffix.trans (List.suffix_cons a rest)
  sent := by rw [hrest.sent, hsent, repliesTo_message, List.append_assoc]
  nextId := hrest.nextId.trans hid
  clock := hclock ▸ hrest.clock
  ready := hrest.ready
  steady := hrest.steady

/-- **A wait that is not cut short** consumes what follows from the items. -/
theorem await_heed (hlistens : peer.Listens ready) (id : Nat) (method : String)
    {deadline : Option Nat} (arrivals : List Arrival) : ∀ {s : Session σ}, ready s.peer →
      s.closing = none → (∀ a ∈ arrivals, a.time ≤ s.clock) → deadline.all (s.clock < ·) →
      Heeded ready deadline method (heed id method (arrivals.map Arrival.item)) arrivals s
        (await peer id method deadline arrivals s) := by
  induction arrivals with
  | nil =>
    intro s hready hpatient _ _
    have hnothing : Heeded ready deadline method {} [] { s with incoming := [] }
        (awaitNothing method deadline { s with incoming := [] }) :=
      awaitNothing_heeded hready hpatient rfl
    exact { hnothing with }
  | cons a rest ih =>
    intro s hready hpatient hthere hdeadline
    obtain ⟨htime, hrest⟩ := List.forall_mem_cons.1 hthere
    obtain ⟨atHand, ha⟩ := awaitItem_there hpatient htime hdeadline
    let t : Session σ := { s with atHand := atHand }
    obtain ⟨time, item⟩ := a
    cases item with
    | finish =>
      rw [await_finish ha rfl]
      refine ⟨rfl, ?_, List.suffix_rfl, (List.append_nil _).symm, rfl, rfl, hready, hpatient⟩
      rw [List.map_cons, heed]
    | fault cause =>
      rw [await_fault ha rfl]
      exact ⟨rfl, rfl, List.suffix_cons _ _, (List.append_nil _).symm, rfl, rfl, hready, hpatient⟩
    | message v =>
      have hroute := route_reply id method v
      cases hreply : v.reply? with
      | some answer =>
        -- the server takes the answer, and the wait goes on
        rw [hreply] at hroute
        obtain ⟨q, haccept, hready'⟩ := hlistens.accept answer s.peer hready
        let u : Session σ := { t with peer := q, sent := t.sent ++ [answer] }
        have hanswered : t.reply peer answer = (.ok (), u) := by
          rw [reply, show peer.accept answer t.peer = _ from haccept]
        rw [await_asked ha rfl hroute hanswered, List.map_cons,
          heed_other fun result h => by rw [hroute] at h; cases h]
        refine (ih (s := u) hready' hpatient hrest hdeadline).cons ?_ rfl rfl
        rw [hreply]
        rfl
      | none =>
        rw [hreply] at hroute
        rcases hroute with hroute | ⟨result, hroute⟩
        · rw [await_passed ha rfl hroute, List.map_cons,
            heed_other fun result h => by rw [hroute] at h; cases h]
          refine (ih (s := t) hready hpatient hrest hdeadline).cons ?_ rfl rfl
          rw [hreply]
          exact (List.append_nil _).symm
        · rw [await_settled ha rfl hroute, List.map_cons, heed_settled hroute]
          refine ⟨rfl, rfl, List.suffix_cons _ _, ?_, rfl, rfl, hready, hpatient⟩
          rw [repliesTo_message, hreply]
          exact (List.append_nil _).symm

/-- A message to a server that listens is written. -/
theorem send_calm (hlistens : peer.Listens ready) (message : Json) {s : Session σ}
    (hcalm : s.IsCalm ready) (hopen : s.isAbandoned = false) : ∃ q, ready q ∧ s.send peer message =
      (.ok (), { s with peer := q, sent := s.sent ++ [message] }) := by
  obtain ⟨q, hhear, hready⟩ := hlistens.hear s.clock message s.peer hcalm.ready
  refine ⟨q, hready, ?_⟩
  simp only [send, hopen, hhear, Bool.false_eq_true, if_false, List.append_nil]

/-- **A request that is not cut short** is written, and consumes what follows from the items. -/
theorem requestWithin_heed (hlistens : peer.Listens ready) {limit : Option Nat}
    (hlimit : limit.all (0 < ·)) (method : String) (params : Json) {s : Session σ}
    (hcalm : s.IsCalm ready) (hpatient : s.closing = none) :
    Heeded ready (limit.map (s.clock + ·)) method
      (heed s.nextId method (s.incoming.map Arrival.item)) s.incoming
      { s with
        nextId := s.nextId + 1
        sent := s.sent ++ [Message.request s.nextId method params] }
      (s.requestWithin peer limit method params) := by
  have hcalm' : ({ s with nextId := s.nextId + 1 } : Session σ).IsCalm ready := { hcalm with }
  obtain ⟨q, hready, hsend⟩ :=
    send_calm hlistens (Message.request s.nextId method params) hcalm'
      (isAbandoned_of_patient hpatient)
  have hdeadline : (limit.map (s.clock + ·)).all (s.clock < ·) := by
    cases limit with
    | none => rfl
    | some d =>
      have hd : 0 < d := by simpa using hlimit
      simpa using hd
  simp only [requestWithin, hsend]
  exact { await_heed hlistens s.nextId method s.incoming (s := { s with
    nextId := s.nextId + 1
    peer := q
    sent := s.sent ++ [Message.request s.nextId method params] }) hready hpatient hcalm.there
    hdeadline with }

/-- After a wait the session is calm again. -/
theorem Heeded.calm {deadline : Option Nat} {method : String} {h : Heed} {arrivals : List Arrival}
    {s : Session σ} {r : Except Fault Json × Session σ}
    (hheeded : Heeded ready deadline method h arrivals s r)
    (hthere : ∀ a ∈ arrivals, a.time ≤ s.clock) : r.2.IsCalm ready where
  ready := hheeded.ready
  there a ha := by
    have htime := hthere a (hheeded.suffix.subset ha)
    have hclock := hheeded.clock
    split at hclock
    · rw [hclock]
      exact htime
    · rw [hclock]
      exact Nat.le_trans htime (Nat.le_max_left _ _)

end Session

end DeadSymbols
