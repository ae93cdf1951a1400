import DeadSymbols.Proofs.Heeding
import DeadSymbols.Proofs.Transcript

/-!
# Interjections

A server may send notifications, requests of its own and answers that nobody waits for between the
messages that matter. They make no difference to what the client is told, and the requests among
them are answered once each.

* `Piece`: a message of a stream with its frame, which may be an interjection.
* `StillOpen`: the requests that are still to be completed at a place in a stream.
* `Passage`, `heed_interjected`: a wait with interjections, beside the one without them.
* `Beside`: two conversations, of which one has interjections.
* `Client.interjections_transparent`: runs with and without interjections.
-/

namespace DeadSymbols

/-- A list is made of two others, each of them in its order. -/
inductive Merges {α : Type} : List α → List α → List α → Prop
  | nil : Merges [] [] []
  | left (x : α) {xs ys all : List α} (h : Merges xs ys all) : Merges (x :: xs) ys (x :: all)
  | right (y : α) {xs ys all : List α} (h : Merges xs ys all) : Merges xs (y :: ys) (y :: all)

namespace Merges

variable {α : Type} {xs ys xs' ys' all all' : List α}

theorem append (h : Merges xs ys all) (h' : Merges xs' ys' all') :
    Merges (xs ++ xs') (ys ++ ys') (all ++ all') := by
  induction h with
  | nil => exact h'
  | left x _ ih => exact .left x ih
  | right y _ ih => exact .right y ih

theorem left_only (xs : List α) : Merges xs [] xs := by
  induction xs with
  | nil => exact .nil
  | cons x _ ih => exact .left x ih

theorem right_only (ys : List α) : Merges [] ys ys := by
  induction ys with
  | nil => exact .nil
  | cons y _ ih => exact .right y ih

end Merges

/-- A message of a stream with its frame. It may be an interjection. -/
structure Piece where
  frame : List UInt8
  message : Json
  inserted : Bool

namespace Piece

/-- A stream without the interjections. -/
def plain (stream : List Piece) : List Piece := stream.filter (!·.inserted)

/-- The bytes of a stream. -/
def bytes (stream : List Piece) : List UInt8 := stream.flatMap frame

/-- The messages of a stream. -/
def items (stream : List Piece) : List Item := stream.map fun piece => .message piece.message

/-- The answers to the requests among the interjections. -/
def answers (stream : List Piece) : List Json :=
  (stream.filter (·.inserted)).filterMap (·.message.reply?)

variable {piece : Piece} {stream xs ys : List Piece}

theorem plain_inserted (h : piece.inserted = true) (rest : List Piece) :
    plain (piece :: rest) = plain rest := by
  rw [plain, List.filter_cons_of_neg (by simp [h])]
  rfl

theorem plain_original (h : piece.inserted = false) (rest : List Piece) :
    plain (piece :: rest) = piece :: plain rest := by
  rw [plain, List.filter_cons_of_pos (by simp [h])]
  rfl

theorem plain_append : plain (xs ++ ys) = plain xs ++ plain ys := List.filter_append ..

theorem items_append : items (xs ++ ys) = items xs ++ items ys := List.map_append

theorem answers_append : answers (xs ++ ys) = answers xs ++ answers ys := by
  rw [answers, List.filter_append, List.filterMap_append]
  rfl

/-- The answers to the requests of a stream are those without the interjections, with those to the
interjections among them. -/
theorem merges_replies (stream : List Piece) :
    Merges (repliesTo (items (plain stream))) (answers stream) (repliesTo (items stream)) := by
  induction stream with
  | nil => exact .nil
  | cons piece rest ih =>
    have hall : repliesTo (items (piece :: rest)) =
        piece.message.reply?.toList ++ repliesTo (items rest) := repliesTo_message ..
    have hcons : answers ([piece] ++ rest) = answers [piece] ++ answers rest := answers_append
    rw [hall, show answers (piece :: rest) = _ from hcons]
    cases hinserted : piece.inserted with
    | true =>
      have hone : answers [piece] = piece.message.reply?.toList := by
        cases h : piece.message.reply? <;> simp [answers, hinserted, h]
      rw [plain_inserted hinserted, hone]
      exact (Merges.right_only _).append ih
    | false =>
      have hnone : answers [piece] = [] := by simp [answers, hinserted]
      have hplain : repliesTo (items (piece :: plain rest)) =
          piece.message.reply?.toList ++ repliesTo (items (plain rest)) := repliesTo_message ..
      rw [plain_original hinserted, hnone, hplain]
      exact (Merges.left_only _).append ih

end Piece

/-! ## Waits with interjections -/

/-- How a wait goes through a stream with interjections, and after it through a tail, beside the wait
that goes through the stream without them: both get equally far, with the same result. -/
structure Passage (id : Nat) (method : String) (stream : List Piece) (tail : List Item)
    (heard coming : List Piece) (read left : List Item) : Prop where
  split : stream = heard ++ coming
  rest : tail = read ++ left
  first : coming ≠ [] → read = []
  full_heard : (heed id method (Piece.items stream ++ tail)).heard = Piece.items heard ++ read
  full_left : (heed id method (Piece.items stream ++ tail)).left = Piece.items coming ++ left
  plain_heard : (heed id method (Piece.items (Piece.plain stream) ++ tail)).heard =
    Piece.items (Piece.plain heard) ++ read
  plain_left : (heed id method (Piece.items (Piece.plain stream) ++ tail)).left =
    Piece.items (Piece.plain coming) ++ left
  result : (heed id method (Piece.items stream ++ tail)).result =
    (heed id method (Piece.items (Piece.plain stream) ++ tail)).result

namespace Passage

variable {id : Nat} {method : String} {tail : List Item} {piece : Piece}
  {rest heard coming : List Piece} {read left : List Item}

/-- There are no messages, and the tail is all that there is. -/
theorem nil (id : Nat) (method : String) (tail : List Item) :
    Passage id method [] tail [] [] (heed id method tail).heard (heed id method tail).left where
  split := rfl
  rest := (heed_split tail).symm
  first h := absurd rfl h
  full_heard := rfl
  full_left := rfl
  plain_heard := rfl
  plain_left := rfl
  result := rfl

/-- An interjection is passed. -/
theorem cons_inserted (h : Passage id method rest tail heard coming read left)
    (hinserted : piece.inserted = true)
    (hroute : ∀ result, route id method piece.message ≠ .settled result) :
    Passage id method (piece :: rest) tail (piece :: heard) coming read left := by
  have hfull : heed id method (Piece.items (piece :: rest) ++ tail) = _ := heed_other hroute _
  have hplain := Piece.plain_inserted hinserted
  refine ⟨congrArg (piece :: ·) h.split, h.rest, h.first, ?_, ?_, ?_, ?_, ?_⟩
  · rw [hfull]
    exact congrArg (Item.message piece.message :: ·) h.full_heard
  · rw [hfull]
    exact h.full_left
  · rw [hplain, hplain]
    exact h.plain_heard
  · rw [hplain]
    exact h.plain_left
  · rw [hfull, hplain]
    exact h.result

/-- Both waits pass a message. -/
theorem cons_original (h : Passage id method rest tail heard coming read left)
    (hinserted : piece.inserted = false)
    (hroute : ∀ result, route id method piece.message ≠ .settled result) :
    Passage id method (piece :: rest) tail (piece :: heard) coming read left := by
  have hfull : heed id method (Piece.items (piece :: rest) ++ tail) = _ := heed_other hroute _
  have hbare : heed id method (Piece.items (piece :: Piece.plain rest) ++ tail) = _ :=
    heed_other hroute _
  have hplain := Piece.plain_original hinserted
  refine ⟨congrArg (piece :: ·) h.split, h.rest, h.first, ?_, ?_, ?_, ?_, ?_⟩
  · rw [hfull]
    exact congrArg (Item.message piece.message :: ·) h.full_heard
  · rw [hfull]
    exact h.full_left
  · rw [hplain, hplain, hbare]
    exact congrArg (Item.message piece.message :: ·) h.plain_heard
  · rw [hplain, hbare]
    exact h.plain_left
  · rw [hfull, hplain, hbare]
    exact h.result

/-- Both waits end with the same message. -/
theorem settled (hinserted : piece.inserted = false) {result : Except Fault Json}
    (hroute : route id method piece.message = .settled result) (rest : List Piece)
    (tail : List Item) : Passage id method (piece :: rest) tail [piece] rest [] tail := by
  have hfull : heed id method (Piece.items (piece :: rest) ++ tail) = _ := heed_settled hroute _
  have hbare : heed id method (Piece.items (piece :: Piece.plain rest) ++ tail) = _ :=
    heed_settled hroute _
  have hplain := Piece.plain_original hinserted
  refine ⟨rfl, rfl, fun _ => rfl, ?_, ?_, ?_, ?_, ?_⟩
  · rw [hfull]
    rfl
  · rw [hfull]
    rfl
  · rw [hplain, hplain, hbare]
    rfl
  · rw [hplain, hbare]
    rfl
  · rw [hplain, hfull, hbare]

end Passage

/-- **A wait with interjections** gets as far as the one without them, with the same result, unless an
interjection settles it. Those that come after what settles it do not matter. -/
theorem heed_interjected (id : Nat) (method : String) (tail : List Item) (stream : List Piece) :
    (∀ before piece after, stream = before ++ piece :: after → piece.inserted = true →
      ((heed id method (Piece.items (Piece.plain stream) ++ tail)).settled = true →
        (Piece.plain before).length <
          (heed id method (Piece.items (Piece.plain stream) ++ tail)).heard.length) →
      ∀ result, route id method piece.message ≠ .settled result) →
    ∃ heard coming read left, Passage id method stream tail heard coming read left := by
  induction stream with
  | nil => exact fun _ => ⟨[], [], _, _, .nil id method tail⟩
  | cons piece rest ih =>
    intro haside
    cases hinserted : piece.inserted with
    | true =>
      rw [Piece.plain_inserted hinserted rest] at haside
      have hroute := haside [] piece rest rfl hinserted fun hsettled =>
        List.length_pos_iff.2 (heed_heard_ne_nil hsettled)
      obtain ⟨heard, coming, read, left, h⟩ := ih fun before p after hsplit hp hopen => by
        refine haside (piece :: before) p after (congrArg (piece :: ·) hsplit) hp fun hsettled => ?_
        rw [Piece.plain_inserted hinserted]
        exact hopen hsettled
      exact ⟨_, _, _, _, h.cons_inserted hinserted hroute⟩
    | false =>
      rw [Piece.plain_original hinserted rest] at haside
      by_cases hsettled : ∃ result, route id method piece.message = .settled result
      · obtain ⟨result, hroute⟩ := hsettled
        exact ⟨_, _, _, _, .settled hinserted hroute rest tail⟩
      · have hroute : ∀ result, route id method piece.message ≠ .settled result :=
          fun result h => hsettled ⟨result, h⟩
        -- both waits consume the message, and so both counts grow by one
        have hbare : heed id method (Piece.items (piece :: Piece.plain rest) ++ tail) = _ :=
          heed_other hroute _
        obtain ⟨heard, coming, read, left, h⟩ := ih fun before p after hsplit hp hopen => by
          refine haside (piece :: before) p after (congrArg (piece :: ·) hsplit) hp fun hsettled => ?_
          rw [hbare] at hsettled
          rw [Piece.plain_original hinserted, hbare]
          exact Nat.succ_lt_succ (hopen hsettled)
        exact ⟨_, _, _, _, h.cons_original hinserted hroute⟩

/-! ## Interjections that matter to nobody -/

/-- A message that was consumed for a request settles it. -/
def Exchange.IsSettled (e : Exchange) : Prop :=
  ∃ a ∈ e.consumed, ∃ v result, a.item = .message v ∧ route e.id e.method v = .settled result

/-- Request `id` is still to be completed after some exchanges consumed their first `count` arrivals:
none of these settles it. -/
def StillOpen (exchanges : List Exchange) (count id : Nat) : Prop :=
  ∃ done e rest, exchanges = done ++ e :: rest ∧ e.id = id ∧
    (e.IsSettled → count < ((done ++ [e]).flatMap Exchange.consumed).length)

/-- A message that matters to no request that is open: a notification or a request, which have a
text as their method, or else an answer to none of them. -/
def Json.IsAside (isOpen : Nat → Prop) (message : Json) : Prop :=
  ((message.get? "method").bind asText?).isSome = true ∨
    ∃ theirs, message.get? "id" = some theirs ∧ ∀ id, isOpen id → theirs ≠ .integer id

theorem Json.IsAside.mono {isOpen isOpen' : Nat → Prop} {message : Json} (h : message.IsAside isOpen)
    (hopen : ∀ id, isOpen' id → isOpen id) : message.IsAside isOpen' :=
  h.imp_right fun ⟨theirs, hid, hother⟩ => ⟨theirs, hid, fun id h => hother id (hopen id h)⟩

/-- Such a message settles none of these requests. -/
theorem Json.IsAside.route_ne {isOpen : Nat → Prop} {message : Json} (h : message.IsAside isOpen)
    {id : Nat} (hopen : isOpen id) (method : String) (result : Except Fault Json) :
    route id method message ≠ .settled result := by
  rcases h with hmethod | ⟨theirs, hid, hother⟩
  · obtain ⟨asked, hasked⟩ := Option.isSome_iff_exists.1 hmethod
    unfold route
    rw [hasked]
    cases message.get? "id" <;> exact Route.noConfusion
  · have hnot : ¬ theirs.asInt64? = some (id : Int) :=
      fun hnumber => hother id hopen (Json.eq_of_asInt64 hnumber)
    unfold route
    rw [hid]
    cases (message.get? "method").bind Json.asText? with
    | some asked => exact Route.noConfusion
    | none =>
      dsimp only
      rw [if_neg (by simpa using hnot)]
      exact Route.noConfusion

/-- Each interjection of a stream matters to no request that is still to be completed when the
messages before it are consumed. -/
def Piece.AreAside (exchanges : List Exchange) (stream : List Piece) : Prop :=
  ∀ before piece after, stream = before ++ piece :: after → piece.inserted = true →
    piece.message.IsAside (StillOpen exchanges (plain before).length)

theorem Piece.AreAside.of_append {exchanges later : List Exchange} {stream : List Piece}
    (h : AreAside (exchanges ++ later) stream) : AreAside exchanges stream := by
  intro before piece after hstream hinserted
  refine (h before piece after hstream hinserted).mono ?_
  rintro id ⟨done, e, rest, rfl, hid, hopen⟩
  exact ⟨done, e, rest ++ later, by simp, hid, hopen⟩

/-- What comes after the messages that the first exchange consumed matters to no later one. -/
theorem Piece.AreAside.later {e : Exchange} {exchanges : List Exchange} {heard coming : List Piece}
    (h : AreAside (e :: exchanges) (heard ++ coming))
    (hlength : (plain heard).length ≤ e.consumed.length) : AreAside exchanges coming := by
  intro before piece after hstream hinserted
  have haside := h (heard ++ before) piece after (by rw [hstream, List.append_assoc]) hinserted
  refine haside.mono ?_
  rintro id ⟨done, e', rest, rfl, hid, hopen⟩
  refine ⟨e :: done, e', rest, rfl, hid, fun hsettled => ?_⟩
  have hcount := hopen hsettled
  rw [plain_append, List.length_append, List.cons_append, List.flatMap_cons, List.length_append]
  omega

/-! ## Two conversations -/

/-- Whether a message of the client is an answer. -/
def Json.isReply (message : Json) : Bool := (message.get? "method").isNone

/-- All answers to requests of the server are answers. -/
theorem filter_repliesTo (items : List Item) :
    (repliesTo items).filter Json.isReply = repliesTo items := by
  refine List.filter_eq_self.2 fun answer hanswer => ?_
  obtain ⟨v, -, hreply⟩ := List.mem_filterMap.1 hanswer
  unfold Json.reply? at hreply
  split at hreply
  · cases hreply
    rfl
  · cases hreply

/-- Two conversations: one with a server that sends a stream and then a tail, and one with a server
that sends the same without the interjections. Both are equally far, and what was written in the
first is what was written in the second, with the answers to interjections among it. -/
structure Beside {σ : Type} (ready : σ → Prop) (stream : List Piece) (tail : List Item)
    (heard coming : List Piece) (read left : List Item) (s p : Session σ) : Prop where
  split : stream = heard ++ coming
  rest : tail = read ++ left
  first : coming ≠ [] → read = []
  calm : s.IsCalm ready
  plain_calm : p.IsCalm ready
  steady : Session.SameSteady s p
  items : s.incoming.map Arrival.item = Piece.items coming ++ left
  plain_items : p.incoming.map Arrival.item = Piece.items (Piece.plain coming) ++ left
  nextId : s.nextId = p.nextId
  clock : s.clock = p.clock
  merges : Merges p.sent (Piece.answers heard) s.sent
  replies : s.sent.filter Json.isReply = repliesTo (Piece.items heard ++ read)

namespace Beside

variable {σ : Type} {ready : σ → Prop} {stream heard coming : List Piece}
  {tail read left : List Item} {s p : Session σ}

/-- The tail is read only when no messages are left. -/
theorem eq_nil_or (h : Beside ready stream tail heard coming read left s p) :
    coming = [] ∨ read = [] := by
  by_cases hcoming : coming = []
  · exact .inl hcoming
  · exact .inr (h.first hcoming)

/-- What was consumed comes before what was not. -/
theorem consumed (h : Beside ready stream tail heard coming read left s p) :
    Piece.items stream ++ tail =
      (Piece.items heard ++ read) ++ (Piece.items coming ++ left) := by
  rw [h.split, h.rest, Piece.items_append]
  rcases h.eq_nil_or with hnone | hnone <;> simp [hnone, Piece.items]

/-- The messages that were consumed are the first ones. -/
theorem take (h : Beside ready stream tail heard coming read left s p) :
    stream.take (Piece.items heard ++ read).length = heard := by
  rw [h.split, List.length_append, Piece.items, List.length_map]
  rcases h.eq_nil_or with rfl | rfl
  · rw [List.append_nil, List.take_of_length_le (Nat.le_add_right _ _)]
  · exact List.take_left' (Nat.add_zero _).symm

end Beside

namespace Session

variable {σ : Type} {peer : Peer σ} {ready : σ → Prop}

/-- What a request consumed is what the wait for the answer consumes. -/
theorem exchange_heeded (hlistens : peer.Listens ready) {limit : Option Nat}
    (hlimit : limit.all (0 < ·)) (method : String) (params : Json) {s : Session σ}
    (hcalm : s.IsCalm ready) (hpatient : s.closing = none) :
    (s.exchange peer limit method params).consumed.map Arrival.item =
      (heed s.nextId method (s.incoming.map Arrival.item)).heard := by
  have hheeded := requestWithin_heed hlistens hlimit method params hcalm hpatient
  obtain ⟨consumed, hsplit⟩ := hheeded.suffix
  rw [exchange_consumed hsplit.symm]
  have hitems : consumed.map Arrival.item ++
      (s.requestWithin peer limit method params).2.incoming.map Arrival.item =
        s.incoming.map Arrival.item := by
    rw [← List.map_append, hsplit]
  rw [hheeded.left] at hitems
  exact List.append_cancel_right (hitems.trans (heed_split _).symm)

variable {stream heard coming heard' coming' : List Piece} {tail read left read' left' : List Item}
  {s p : Session σ}

/-- **A request in both conversations** has the same result, and gets equally far. -/
theorem requestWithin_beside (hlistens : peer.Listens ready) {limit : Option Nat}
    (hlimit : limit.all (0 < ·)) (method : String) (params : Json)
    (h : Beside ready stream tail heard coming read left s p) (hs : s.closing = none)
    (hp : p.closing = none)
    (hpassage : Passage p.nextId method coming left heard' coming' read' left') :
    Related (Beside ready stream tail (heard ++ heard') coming' (read ++ read') left')
      (s.requestWithin peer limit method params) (p.requestWithin peer limit method params) := by
  have hs := requestWithin_heed hlistens hlimit method params h.calm hs
  have hp := requestWithin_heed hlistens hlimit method params h.plain_calm hp
  rw [h.items, h.nextId, h.clock] at hs
  rw [h.plain_items] at hp
  refine ⟨by rw [hs.result, hp.result, hpassage.result], ?_⟩
  have hthere : ∀ a ∈ s.incoming, a.time ≤ p.clock := h.clock ▸ h.calm.there
  refine ⟨?_, ?_, fun hcoming => ?_, hs.calm hthere, hp.calm h.plain_calm.there, ?_, ?_, ?_, ?_, ?_,
    ?_, ?_⟩
  · rw [h.split, hpassage.split, List.append_assoc]
  · rw [h.rest, hpassage.rest, List.append_assoc]
  · have hcoming' : coming ≠ [] := by
      rw [hpassage.split]
      exact List.append_ne_nil_of_right_ne_nil _ hcoming
    rw [h.first hcoming', hpassage.first hcoming]
    rfl
  · have hsteady := hs.steady
    have hsteady' := hp.steady
    rw [hpassage.result] at hsteady
    split at hsteady
    case isTrue hends =>
      rw [if_pos hends] at hsteady'
      exact .inl ⟨hsteady, hsteady'⟩
    case isFalse hends =>
      rw [if_neg hends] at hsteady'
      exact .inr ⟨hsteady, hsteady'⟩
  · rw [hs.left, hpassage.full_left]
  · rw [hp.left, hpassage.plain_left]
  · rw [hs.nextId, hp.nextId]
  · have hs' := hs.clock
    rw [hpassage.result] at hs'
    exact hs'.trans hp.clock.symm
  -- the request is written in both, and the answers to what is consumed after it
  · rw [hs.sent, hp.sent, hpassage.full_heard, hpassage.plain_heard, repliesTo_append,
      repliesTo_append, Piece.answers_append]
    have hrequest := h.merges.append (Merges.left_only [Message.request p.nextId method params])
    have hreplies := (Piece.merges_replies heard').append (Merges.left_only (repliesTo read'))
    rw [List.append_nil] at hrequest hreplies
    exact hrequest.append hreplies
  · have hrequest : [Message.request p.nextId method params].filter Json.isReply = [] := rfl
    rw [hs.sent, hpassage.full_heard, List.filter_append, filter_repliesTo, List.filter_append,
      h.replies, hrequest, List.append_nil, ← repliesTo_append]
    congr 1
    rcases h.eq_nil_or with hnone | hnone
    · obtain ⟨rfl, -⟩ := List.append_eq_nil_iff.1 (hpassage.split.symm.trans hnone)
      rw [List.append_nil]
      exact List.append_assoc ..
    · rw [hnone, Piece.items_append]
      simp

/-- A notification is written in both conversations, or in none. -/
theorem notify_beside (hlistens : peer.Listens ready) (method : String) (params : Json)
    (h : Beside ready stream tail heard coming read left s p) :
    Related (Beside ready stream tail heard coming read left) (s.notify peer method params)
      (p.notify peer method params) := by
  cases hopen : p.isAbandoned with
  | true =>
    rw [notify, notify, send_abandoned hopen, send_abandoned (h.steady.isAbandoned.trans hopen)]
    exact ⟨rfl, h⟩
  | false =>
    obtain ⟨q, hready, hs⟩ := send_calm hlistens (Message.notification method params) h.calm
      (h.steady.isAbandoned.trans hopen)
    obtain ⟨q', hready', hp⟩ :=
      send_calm hlistens (Message.notification method params) h.plain_calm hopen
    have hnone : [Message.notification method params].filter Json.isReply = [] := rfl
    rw [notify, notify, hs, hp]
    refine ⟨rfl, { h with
      calm := { h.calm with ready := hready }
      plain_calm := { h.plain_calm with ready := hready' }
      merges := ?_
      replies := ?_ }⟩
    · have hmerges := h.merges.append (Merges.left_only [Message.notification method params])
      rwa [List.append_nil] at hmerges
    · rw [List.filter_append, h.replies, hnone, List.append_nil]

end Session

/-! ## Calls and runs -/

namespace Client

open Session

variable {σ : Type} {client : Client σ} {ready : σ → Prop} {stream heard coming : List Piece}
  {tail read left : List Item} {s p : Session σ}

/-- Both conversations stay equally far while the client makes no request. -/
theorem respects_beside (hlistens : client.peer.Listens ready) :
    client.Respects (Beside ready stream tail heard coming read left) where
  notify method params h := notify_beside hlistens method params h
  read h := { h with calm := { h.calm with }, plain_calm := { h.plain_calm with } }
  abandoned h := h.steady.isAbandoned

section Calls

variable (hlistens : client.peer.Listens ready) (hlimit : client.requestLimit = none)
  (hpositive : 0 < client.shutdownLimit)

include hlistens hlimit hpositive

/-- **A call in both conversations** has the same answer, if the interjections matter to nobody. -/
theorem call_beside {call : ClientCall} {later : List Exchange}
    (h : Beside ready stream tail heard coming read left s p) (hs : s.closing = none)
    (hp : p.closing = none)
    (haside : Piece.AreAside ((client.exchange? call p).toList ++ later) coming) :
    client.answer call s = client.answer call p ∧ ∃ heard' coming' read' left',
      Beside ready stream tail heard' coming' read' left' (client.perform call s)
        (client.perform call p) ∧ Piece.AreAside later coming' := by
  cases hcall : client.requestOf? call with
  | none =>
    rw [exchange?_eq_none hcall] at haside
    obtain ⟨hanswer, hbeside⟩ := answer_related (respects_beside hlistens) hcall h
    exact ⟨hanswer, _, _, _, _, hbeside, haside⟩
  | some request =>
    obtain ⟨limit, method, params⟩ := request
    have hlimit' : limit.all (0 < ·) := by
      rcases limit_of_requestOf hcall with rfl | ⟨-, rfl⟩
      · rw [hlimit]
        rfl
      · simpa using hpositive
    let e := p.exchange client.peer limit method params
    have hexchange : client.exchange? call p = some e := exchange?_eq_some hcall p
    have hconsumed := exchange_heeded hlistens hlimit' method params h.plain_calm hp
    rw [h.plain_items] at hconsumed
    rw [hexchange] at haside
    -- an interjection that is consumed comes before what settles the request
    obtain ⟨heard', coming', read', left', hpassage⟩ :=
      heed_interjected p.nextId method left coming fun before piece after hsplit hinserted hopen => by
        have hopen' : StillOpen ([e] ++ later) (Piece.plain before).length p.nextId := by
          refine ⟨[], e, later, rfl, rfl, fun ⟨a, ha, v, result, hitem, hroute⟩ => ?_⟩
          have hmem := List.mem_map_of_mem (f := Arrival.item) ha
          rw [hconsumed, hitem] at hmem
          have hlength := congrArg List.length hconsumed
          rw [List.length_map] at hlength
          show _ < (([] ++ [e]).flatMap Exchange.consumed).length
          rw [List.nil_append, List.flatMap_singleton, hlength]
          exact hopen (heed_settled_of_mem hmem hroute)
        exact (haside before piece after hsplit hinserted).route_ne hopen' method
    obtain ⟨hanswer, hbeside⟩ := answer_related_of_request (respects_beside hlistens) hcall
      (requestWithin_beside hlistens hlimit' method params h hs hp hpassage)
    refine ⟨hanswer, _, _, _, _, hbeside, ?_⟩
    rw [hpassage.split] at haside
    refine haside.later ?_
    have hlength := congrArg List.length (hconsumed.trans hpassage.plain_heard)
    rw [List.length_map, List.length_append, Piece.items, List.length_map] at hlength
    exact hlength ▸ Nat.le_add_right _ _

/-- **A run of calls in both conversations** has the same answers. -/
theorem run_beside (calls : List ClientCall) :
    ∀ {heard coming : List Piece} {read left : List Item} {s p : Session σ},
      Beside ready stream tail heard coming read left s p →
      Piece.AreAside (client.run (calls.map (·, none)) p).1 coming →
      (client.transcript (calls.map (·, none)) s).map Prod.fst =
          (client.transcript (calls.map (·, none)) p).map Prod.fst ∧
        ∃ heard' coming' read' left', Beside ready stream tail heard' coming' read' left'
          (client.run (calls.map (·, none)) s).2 (client.run (calls.map (·, none)) p).2 := by
  induction calls with
  | nil => exact fun h _ => ⟨rfl, _, _, _, _, h⟩
  | cons call rest ih =>
    intro heard coming read left s p h haside
    -- nobody gives up, before the call and in it
    have hpatient : Beside ready stream tail heard coming read left { s with closing := none }
        { p with closing := none } :=
      { h with
        calm := { h.calm with }
        plain_calm := { h.plain_calm with }
        steady := .inl ⟨rfl, rfl⟩ }
    obtain ⟨hanswer, heard', coming', read', left', hbeside, hlater⟩ :=
      call_beside hlistens hlimit hpositive hpatient rfl rfl haside
    obtain ⟨hanswers, hrun⟩ := ih hbeside hlater
    refine ⟨?_, hrun⟩
    simp only [List.map_cons, transcript, hanswer]
    exact congrArg (_ :: ·) hanswers

end Calls

end Client

/-! ## Streams with interjections -/

/-- What chunks bring that all come at once is at hand from the start. -/
theorem time_arrivalsFrom (ending : Ending) {chunks : List Chunk} (h : ∀ c ∈ chunks, c.time = 0) :
    ∀ reader : Reader, ∀ a ∈ arrivalsFrom ending reader 0 chunks, a.time = 0 := by
  induction chunks with
  | nil =>
    intro reader a ha
    obtain ⟨item, -, rfl⟩ := List.mem_map.1 ha
    rfl
  | cons chunk rest ih =>
    intro reader a ha
    obtain ⟨hchunk, hrest⟩ := List.forall_mem_cons.1 h
    simp only [arrivalsFrom, hchunk, Nat.max_self] at ha
    rcases List.mem_append.1 ha with ha | ha
    · obtain ⟨item, -, rfl⟩ := List.mem_map.1 ha
      rfl
    · exact ih hrest _ a ha

/-- The items of a stream of frames, and of what comes after them. -/
theorem Piece.arrivals_items {stream : List Piece}
    (hframes : ∀ piece ∈ stream, Frame.Holds piece.frame piece.message) {tail : List UInt8}
    {chunks : List Chunk} (hbytes : chunks.flatMap Chunk.bytes = bytes stream ++ tail)
    (ending : Ending) : (arrivals chunks ending).map Arrival.item =
      items stream ++ ((Reader.drained tail).1 ++ (Reader.drained tail).2.close ending) := by
  have hdrained := Reader.drained_frames (stream.map fun piece => (piece.frame, piece.message))
    (fun frame hframe => by
      obtain ⟨piece, hpiece, rfl⟩ := List.mem_map.1 hframe
      exact hframes piece hpiece) tail
  rw [List.flatMap_map, List.map_map] at hdrained
  rw [DeadSymbols.arrivals_items, hbytes, show bytes stream ++ tail = _ from rfl]
  rw [show Reader.drained (bytes stream ++ tail) = _ from hdrained, List.append_assoc]
  rfl

/-- **Interjections make no difference, and are answered once.** Let a server that takes all that is
written to it send a stream of messages and then anything, all at once; and let another one send the
same without some of the messages, the interjections: notifications, requests with any id, and answers
to no request that is still to be completed. A client that waits as long as it takes gets the same
answer to each of its calls from both. After any number of calls it has consumed the first items of
the stream. What it wrote is what it writes without the interjections, in the same order, and among
it the answers to the requests among the interjections that were consumed, in their order; and its
answers are those to all requests that were consumed, each answered once, in their order. -/
theorem Client.interjections_transparent {σ : Type} (client : Client σ) {ready : σ → Prop}
    (hlistens : client.peer.Listens ready) (hlimit : client.requestLimit = none)
    (hpositive : 0 < client.shutdownLimit) {server : σ} (hready : ready server)
    {stream : List Piece} (hframes : ∀ piece ∈ stream, Frame.Holds piece.frame piece.message)
    (tail : List UInt8) (ending : Ending) {chunks plainChunks : List Chunk}
    (htimes : ∀ c ∈ chunks ++ plainChunks, c.time = 0)
    (hbytes : chunks.flatMap Chunk.bytes = Piece.bytes stream ++ tail)
    (hplain : plainChunks.flatMap Chunk.bytes = Piece.bytes (Piece.plain stream) ++ tail)
    (calls : List ClientCall)
    (haside : Piece.AreAside
      (client.run (calls.map (·, none)) (.opened server plainChunks ending)).1 stream) :
    (client.transcript (calls.map (·, none)) (.opened server chunks ending)).map Prod.fst =
        (client.transcript (calls.map (·, none)) (.opened server plainChunks ending)).map Prod.fst ∧
      ∀ n, let made := (calls.take n).map (·, none)
        let s := (client.run made (.opened server chunks ending)).2
        let p := (client.run made (.opened server plainChunks ending)).2
        ∃ consumed, (arrivals chunks ending).map Arrival.item =
            consumed ++ s.incoming.map Arrival.item ∧
          Merges p.sent (Piece.answers (stream.take consumed.length)) s.sent ∧
          s.sent.filter Json.isReply = repliesTo consumed := by
  rw [List.forall_mem_append] at htimes
  have hitems := Piece.arrivals_items hframes hbytes ending
  have hitems' := Piece.arrivals_items (fun piece hpiece => hframes piece
    (List.mem_filter.1 hpiece).1) hplain ending
  generalize (Reader.drained tail).1 ++ (Reader.drained tail).2.close ending = rest at hitems hitems'
  have hstart : Beside ready stream rest [] stream [] rest (.opened server chunks ending)
      (.opened server plainChunks ending) :=
    { split := rfl
      rest := rfl
      first := fun _ => rfl
      calm := ⟨hready, fun a ha => Nat.le_of_eq (time_arrivalsFrom ending htimes.1 _ a ha)⟩
      plain_calm := ⟨hready, fun a ha => Nat.le_of_eq (time_arrivalsFrom ending htimes.2 _ a ha)⟩
      steady := .inl ⟨rfl, rfl⟩
      items := hitems
      plain_items := hitems'
      nextId := rfl
      clock := rfl
      merges := .nil
      replies := rfl }
  refine ⟨(run_beside hlistens hlimit hpositive calls hstart haside).1, fun n => ?_⟩
  have hmade : Piece.AreAside (client.run ((calls.take n).map (·, none))
      (.opened server plainChunks ending)).1 stream := by
    rw [← List.take_append_drop n calls, List.map_append, run_append] at haside
    exact haside.of_append
  obtain ⟨-, heard, coming, read, left, h⟩ :=
    run_beside hlistens hlimit hpositive (calls.take n) hstart hmade
  refine ⟨Piece.items heard ++ read, ?_, ?_, h.replies⟩
  · rw [hitems, h.items, h.consumed]
  · rw [h.take]
    exact h.merges

/-- A server without a limit listens. -/
theorem Stream.listens_peer : Stream.peer.Listens fun stream => stream.room = none where
  hear _ _ stream h := ⟨stream, by simp [peer, take, h, Except.map], h⟩
  accept _ stream h := ⟨stream, by simp [peer, take, h], h⟩

/-- A request of the server for two settings. -/
def settingsRequest : Json :=
  .object [("id", .text "s"), ("method", .text "workspace/configuration"),
    ("params", .object [("items", .array [.null, .null])])]

/-- The answers to two requests. A notification and a request of the server are interjected before
the first one, and an answer that nobody waits for before the second one. -/
def interrupted : List Piece :=
  let piece (inserted : Bool) (message : Json) : Piece := ⟨Frame.bytes message, message, inserted⟩
  [piece true (.object [("method", .text "log")]), piece true settingsRequest,
    piece false (Message.answer (.integer 1) (.integer 7)),
    piece true (Message.answer (.text "1") .null),
    piece false (Message.answer (.integer 2) (.integer 8))]

/-- The interjections make no difference to the two requests, and the request of the server gets two
nulls. -/
theorem Client.interjections_transparent_settings :
    let chunks : List Chunk := [⟨0, Piece.bytes interrupted⟩]
    let plainChunks : List Chunk := [⟨0, Piece.bytes (Piece.plain interrupted)⟩]
    let calls : List ClientCall := [.request "a" .null, .request "b" .null]
    let made : List (ClientCall × Option Nat) := calls.map (·, none)
    let s := (patientClient.run made (.opened ⟨none⟩ chunks .silent)).2
    let p := (patientClient.run made (.opened ⟨none⟩ plainChunks .silent)).2
    (∀ piece ∈ interrupted, Frame.Holds piece.frame piece.message) ∧
      Piece.AreAside (patientClient.run made (.opened ⟨none⟩ plainChunks .silent)).1 interrupted ∧
      (patientClient.transcript made (.opened ⟨none⟩ chunks .silent)).map Prod.fst =
        (patientClient.transcript made (.opened ⟨none⟩ plainChunks .silent)).map Prod.fst ∧
      Merges p.sent [Message.answer (.text "s") (.array [.null, .null])] s.sent := by
  intro chunks plainChunks calls made s p
  have hframes : ∀ piece ∈ interrupted, Frame.Holds piece.frame piece.message := by
    have hwhole : ∀ piece ∈ interrupted, piece.message.IsWhole := by
      simp [interrupted, settingsRequest, Message.answer, Json.IsWhole, Json.MembersAreWhole,
        Json.AreWhole, Json.MemberIsWhole, Json.FitsInteger, Json.maxUInt64]
    have hframe : ∀ piece ∈ interrupted, piece.frame = Frame.bytes piece.message := by
      simp [interrupted]
    have hnormal : ∀ piece ∈ interrupted, piece.message.normal = piece.message := by
      simp only [interrupted, List.forall_mem_cons]
      exact ⟨rfl, rfl, rfl, rfl, rfl, by simp⟩
    have hsmall : ∀ piece ∈ interrupted,
        (Text.encode piece.message.compact).length ≤ Frame.maxLength ∧
          piece.message.nesting ≤ Json.maxDepth := by
      decide +kernel
    intro piece hpiece
    obtain ⟨hlength, hnesting⟩ := hsmall piece hpiece
    have h := (Frame.writes_bytes (hwhole piece hpiece) hlength).holds hnesting
    rwa [hnormal piece hpiece, ← hframe piece hpiece] at h
  have haside : Piece.AreAside (patientClient.run made (.opened ⟨none⟩ plainChunks .silent)).1
      interrupted := by
    have hmethod : ∀ piece ∈ interrupted, piece.inserted = true →
        ((piece.message.get? "method").bind Json.asText?).isSome = true ∨
          piece.message.get? "id" = some (.text "1") := by
      simp [interrupted, settingsRequest, Message.answer, Json.get?, Json.lookup?, Json.asText?]
    intro before piece after hsplit hinserted
    have hpiece : piece ∈ interrupted := by simp [hsplit]
    refine (hmethod piece hpiece hinserted).imp_right fun hid => ?_
    exact ⟨.text "1", hid, fun _ _ => Json.noConfusion⟩
  have htimes : ∀ c ∈ chunks ++ plainChunks, c.time = 0 := by simp [chunks, plainChunks]
  have hbytes : chunks.flatMap Chunk.bytes = Piece.bytes interrupted ++ [] := by simp [chunks]
  have hplain : plainChunks.flatMap Chunk.bytes = Piece.bytes (Piece.plain interrupted) ++ [] := by
    simp [plainChunks]
  obtain ⟨hanswers, hruns⟩ :=
    patientClient.interjections_transparent Stream.listens_peer rfl (by decide)
      (rfl : (⟨none⟩ : Stream).room = none) hframes [] .silent htimes hbytes hplain calls haside
  obtain ⟨consumed, hitems, hmerges, -⟩ := hruns 2
  have hleft : (patientClient.run ((calls.take 2).map (·, none))
      (.opened ⟨none⟩ chunks .silent)).2.incoming = [] :=
    List.eq_nil_of_length_eq_zero (by decide +kernel)
  rw [Piece.arrivals_items hframes hbytes, hleft, List.map_nil, List.append_nil] at hitems
  rw [← hitems] at hmerges
  exact ⟨hframes, haside, hanswers, hmerges⟩

end DeadSymbols
