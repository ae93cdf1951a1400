import DeadSymbols.Proofs.Chunks
import DeadSymbols.Proofs.Encoding
import DeadSymbols.Proofs.Exchange
import DeadSymbols.Service.Table

/-!
# Servers that answer from a table

A server knows an answer to each query about a document. It may send notifications and requests of
its own whenever it sends anything, and its output may be cut into chunks in any way.

* `Peer.Serves`: the servers that answer each query as a table says.
* `Session.await_own`: what a server sends of its own accord does not end a wait.
* `Session.requestWithin_replied`: a request to such a server has the result that it sends.
-/

namespace DeadSymbols

/-! ## Messages about documents -/

namespace Message

/-- The request for the outline of a document. -/
def outlineRequest (id : Nat) (uri : String) : Json :=
  request id "textDocument/documentSymbol" (.object [textDocument uri])

/-- The request for the references to the symbol at a place. -/
def referencesRequest (id : Nat) (uri : String) (place : Position) : Json :=
  request id "textDocument/references" (.object [
    ("context", .object [("includeDeclaration", .bool true)]),
    ("position", position place), textDocument uri])

/-- The notification that a document is open. -/
def opening (languageId uri text : String) : Json :=
  notification "textDocument/didOpen" (.object [("textDocument", .object [
    ("languageId", .text languageId), ("text", .text text), ("uri", .text uri),
    ("version", .integer 1)])])

/-- The notification that a document is closed. -/
def closing (uri : String) : Json :=
  notification "textDocument/didClose" (.object [textDocument uri])

end Message

/-! ## Messages of a server -/

/-- What a server sends of its own accord, be it a request or a notification, says in a text what
it is about. -/
def Json.IsOwn (message : Json) : Prop := ∃ s, (message.get? "method").bind asText? = some s

/-- An arrival that a server sent of its own accord. -/
def Arrival.IsOwn (a : Arrival) : Prop := ∃ message, a.item = .message message ∧ message.IsOwn

/-- The responses to request `id`. No member but the result may be nested as deep as a whole
message. -/
structure Json.IsResponse (id : Nat) (v : Json) : Prop where
  members : ∃ ms, v = .object ms ∧ (ms.map Prod.fst).Nodup ∧
    ∀ m ∈ ms, m.1 = "result" ∨ m.2.nesting < maxDepth
  id : v.get? "id" = some (.integer id)
  method : v.get? "method" = none

/-- The responses that give an answer: an error object for a fault, and a result that encodes what
was asked for if there is something. In the other cases the result is missing or null. -/
def Json.Gives {α : Type} (encodes : α → Json → Prop) (v : Json) : Except Fault (Option α) → Prop
  | .error _ =>
    (∃ ms, v.get? "error" = some (.object ms)) ∧ MayHold (v.get? "result") fun _ => False
  | .ok none => v.get? "error" = none ∧ MayHold (v.get? "result") fun _ => False
  | .ok (some a) =>
    v.get? "error" = none ∧ ∃ result, v.get? "result" = some result ∧ encodes a result

/-- The results that encode an outline: a tree with at most 60 levels. -/
def EncodesOutline (outline : List Symbol) (result : Json) : Prop :=
  Symbol.levelsAll outline ≤ 60 ∧
    ∃ vs, result = .array vs ∧ Symbol.AllEncodedAs (fun w => w.nesting ≤ 2) outline vs

/-- The results that encode a number of references: that many locations. -/
def EncodesCount (count : Nat) (result : Json) : Prop :=
  ∃ vs, result = .array vs ∧ vs.length = count ∧
    ∀ v ∈ vs, v.nesting ≤ 3 ∧ ∃ location : Location, location.EncodedAs v

/-- Frames of messages that a server sends of its own accord. -/
def AreOwn (frames : List (List UInt8 × Json)) : Prop :=
  ∀ frame ∈ frames, Frame.Holds frame.1 frame.2 ∧ frame.2.IsOwn

/-- What a server sends when it hears request `id`, of which it knows the answer. -/
def Responds {α : Type} (encodes : α → Json → Prop) (answer : Except Fault (Option α)) (id : Nat)
    (begun : List UInt8) (arrivals : List Arrival) (left : List UInt8) : Prop :=
  ∃ before frame v after, AreOwn before ∧ Frame.Writes frame v ∧ v.IsResponse id ∧
    v.Gives encodes answer ∧ AreOwn after ∧
    Sends begun arrivals (before ++ (frame, v.normal) :: after) left

variable {σ : Type}

/-- The servers that answer each query about the documents at some paths as a table says. In the
states that are `ready` a server takes every message; `begun` is what it has sent of a frame that
is not complete. Requests are numbered with 64 bits. -/
structure Peer.Serves (peer : Peer σ) (answers : String → FileAnswers) (paths : List String)
    (ready : σ → Prop) (begun : σ → List UInt8) : Prop where
  incomplete : ∀ p, ready p → Frame.next? (begun p) = none
  accept : ∀ answer p, ready p → ∃ q, peer.accept answer p = (.ok (), q) ∧ ready q
  notified : ∀ time method params p, ready p → ∃ arrivals q own,
    peer.hear time (Message.notification method params) p = (.ok arrivals, q) ∧ ready q ∧
      AreOwn own ∧ Sends (begun p) arrivals own (begun q)
  outline : ∀ time id path document p, ready p → id < 0x8000000000000000 → path ∈ paths →
    Document.ofPath path = .ok document → ∃ arrivals q,
      peer.hear time (Message.outlineRequest id document.uri) p = (.ok arrivals, q) ∧ ready q ∧
      Responds EncodesOutline (answers path).outline id (begun p) arrivals (begun q)
  references : ∀ time id path document place p, ready p → id < 0x8000000000000000 →
    path ∈ paths →
    Document.ofPath path = .ok document → ∃ arrivals q,
      peer.hear time (Message.referencesRequest id document.uri place) p = (.ok arrivals, q) ∧
        ready q ∧
      Responds EncodesCount ((answers path).references place) id (begun p) arrivals (begun q)

/-! ## Responses -/

namespace Json

variable {id : Nat} {v : Json}

/-- A response fits into the nesting that a client reads, if its result does. -/
theorem IsResponse.nesting_le (h : v.IsResponse id)
    (hresult : ∀ result, v.get? "result" = some result → result.nesting < maxDepth) :
    v.nesting ≤ maxDepth := by
  obtain ⟨ms, rfl, hnodup, hside⟩ := h.members
  -- there is one result, as no key stands twice
  have hmembers : ∀ m ∈ ms, m.2.nesting ≤ maxDepth - 1 := by
    intro m hm
    rcases hside m hm with hkey | hless
    · have hget := get_of_mem hnodup hm
      rw [hkey] at hget
      exact Nat.le_sub_one_of_lt (hresult m.2 hget)
    · exact Nat.le_sub_one_of_lt hless
  have hall := nestingMembers_le hmembers
  have hpos : 0 < maxDepth := by decide
  rw [nesting]
  omega

theorem EncodesOutline.nesting_lt {outline : List Symbol} {result : Json}
    (h : EncodesOutline outline result) : result.nesting < maxDepth := by
  obtain ⟨hlevels, vs, rfl, hall⟩ := h
  have hnesting := Symbol.nestingAll_encoded (by decide) outline vs hall
  rw [nesting, maxDepth]
  omega

theorem EncodesCount.nesting_lt {count : Nat} {result : Json} (h : EncodesCount count result) :
    result.nesting < maxDepth := by
  obtain ⟨vs, rfl, -, hall⟩ := h
  have hnesting := nestingElements_le fun v hv => (hall v hv).1
  rw [nesting, maxDepth]
  omega

theorem asInt64_natural (hid : id < 0x8000000000000000) :
    asInt64? (.integer id) = some (id : Int) := by
  rw [asInt64?, if_pos]
  rw [Bool.and_eq_true, decide_eq_true_iff, decide_eq_true_iff]
  omega

/-- The response to a request answers it. -/
theorem IsResponse.isAnswer (h : v.IsResponse id) (hid : id < 0x8000000000000000) :
    v.normal.IsAnswer id := by
  refine ⟨?_, ?_⟩
  · rw [get_normal, h.method]
    rfl
  · have hnormal : (integer id).normal = integer id := rfl
    rw [get_normal, h.id, Option.map_some, hnormal, Option.bind_some, asInt64_natural hid]

/-- A result that a response gives is nested less deep than a message may be. -/
theorem Gives.nesting_lt {α : Type} {encodes : α → Json → Prop}
    (hencodes : ∀ a result, encodes a result → result.nesting < maxDepth)
    {answer : Except Fault (Option α)} (h : v.Gives encodes answer) {result : Json}
    (hresult : v.get? "result" = some result) : result.nesting < maxDepth := by
  have hnull : MayHold (v.get? "result") (fun _ => False) → result.nesting < maxDepth := by
    intro hnone
    rcases hnone result hresult with rfl | hfalse
    · decide
    · exact hfalse.elim
  rcases answer with fault | _ | a
  · exact hnull h.2
  · exact hnull h.2
  · obtain ⟨-, w, hw, ha⟩ := h
    rw [hw] at hresult
    rw [← Option.some.inj hresult]
    exact hencodes a w ha

end Json

/-- Arrivals that are the messages of own frames. -/
theorem isOwn_of_items {frames : List (List UInt8 × Json)} {arrivals : List Arrival}
    (hown : AreOwn frames)
    (hitems : arrivals.map Arrival.item = frames.map fun frame => .message frame.2) :
    ∀ {a : Arrival}, a ∈ arrivals → a.IsOwn := by
  intro a ha
  have hitem : a.item ∈ frames.map fun frame => Item.message frame.2 := by
    rw [← hitems]
    exact List.mem_map_of_mem ha
  obtain ⟨frame, hframe, heq⟩ := List.mem_map.1 hitem
  exact ⟨frame.2, heq.symm, (hown frame hframe).2⟩

/-! ## Waiting for a response -/

/-- What a server sends of its own accord is passed over or answered. -/
theorem route_own {message : Json} (h : message.IsOwn) (id : Nat) (method : String) :
    route id method message = .passed ∨
      ∃ theirs result, route id method message = .asked (Message.answer theirs result) := by
  obtain ⟨asked, hmethod⟩ := h
  unfold route
  rw [hmethod]
  cases message.get? "id" with
  | none => exact .inl rfl
  | some theirs => exact .inr ⟨theirs, _, rfl⟩

/-- Whether a message of a client is a request or a notification, and no answer. -/
def Json.isCall (message : Json) : Bool := (message.get? "method").isSome

namespace Session

/-- The requests and notifications that a client has written. -/
def calls (s : Session σ) : List Json := s.sent.filter Json.isCall

variable {peer : Peer σ} {answers : String → FileAnswers} {paths : List String}
  {ready : σ → Prop} {begun : σ → List UInt8}

/-- Nobody gives up, the server is ready, and what is left to be consumed was sent of its own
accord. -/
structure Quiet (ready : σ → Prop) (s : Session σ) : Prop where
  closing : s.closing = none
  ready : ready s.peer
  incoming : ∀ a ∈ s.incoming, a.IsOwn

theorem Quiet.handed {s : Session σ} (h : s.Quiet ready) (time : Nat) :
    Quiet ready { s with atHand := time } := ⟨h.closing, h.ready, h.incoming⟩

/-- Who has no deadline waits for any item. -/
theorem awaitItem_patient {s : Session σ} (h : s.closing = none) (time : Nat) :
    ∃ after, s.awaitItem? none time = some after ∧ after.closing = none ∧ after.peer = s.peer ∧
      after.nextId = s.nextId ∧ after.sent = s.sent := by
  unfold awaitItem?
  split
  · exact ⟨s, rfl, h, rfl, rfl, rfl⟩
  · rw [h]
    exact ⟨_, rfl, rfl, rfl, rfl, rfl⟩

/-- **What a server sends of its own accord** does not end a wait. Its requests are answered, and
nothing else is written. -/
theorem await_own (hserves : peer.Serves answers paths ready begun) (id : Nat) (method : String)
    {own : List Arrival} (hown : ∀ a ∈ own, a.IsOwn) (rest : List Arrival) (s : Session σ)
    (hclosing : s.closing = none) (hready : ready s.peer) :
    ∃ after, await peer id method none (own ++ rest) s = await peer id method none rest after ∧
      after.closing = none ∧ ready after.peer ∧ after.nextId = s.nextId ∧
      after.calls = s.calls := by
  induction own generalizing s with
  | nil => exact ⟨s, rfl, hclosing, hready, rfl, rfl⟩
  | cons a own ih =>
    have hrest : ∀ b ∈ own, b.IsOwn := fun b hb => hown b (List.mem_cons_of_mem _ hb)
    obtain ⟨v, hitem, hv⟩ := hown a List.mem_cons_self
    obtain ⟨t, ht, hclosing', hpeer, hid, hsent⟩ := awaitItem_patient hclosing a.time
    have hcalls : t.calls = s.calls := by rw [calls, hsent]; rfl
    rcases route_own hv id method with hroute | ⟨theirs, result, hroute⟩
    -- a notification, of which nothing comes
    · obtain ⟨after, hafter, h1, h2, h3, h4⟩ := ih hrest t hclosing' (hpeer ▸ hready)
      refine ⟨after, ?_, h1, h2, h3.trans hid, h4.trans hcalls⟩
      rw [List.cons_append, await_passed ht hitem hroute, hafter]
    -- a request of the server, which takes the answer
    · obtain ⟨q, hq, hready'⟩ := hserves.accept (Message.answer theirs result) t.peer
        (hpeer ▸ hready)
      have hreply : t.reply peer (Message.answer theirs result) =
          (.ok (), { t with peer := q, sent := t.sent ++ [Message.answer theirs result] }) := by
        rw [reply, hq]
      obtain ⟨after, hafter, h1, h2, h3, h4⟩ := ih hrest
        { t with peer := q, sent := t.sent ++ [Message.answer theirs result] } hclosing' hready'
      refine ⟨after, ?_, h1, h2, h3.trans hid, ?_⟩
      · rw [List.cons_append, await_asked ht hitem hroute hreply, hafter]
      · rw [h4, calls, List.filter_append, ← hcalls]
        exact List.append_nil _

/-- What is written to a server that hears it. -/
theorem send_heard (s : Session σ) {message : Json} {more : List Arrival} {q : σ}
    (hclosing : s.closing = none)
    (hhear : peer.hear s.clock message s.peer = (.ok more, q)) :
    s.send peer message = (.ok (), { s with
      peer := q, incoming := s.incoming ++ more, sent := s.sent ++ [message] }) := by
  have hopen := isAbandoned_of_patient hclosing
  simp only [send, hopen, Bool.false_eq_true, if_false, hhear]

/-- **A request to a server that knows the answer.** The result is that of a response that gives
the answer, whatever comes before and after it, and the session is as quiet as before. -/
theorem requestWithin_replied {α : Type} {encodes : α → Json → Prop}
    {answer : Except Fault (Option α)} {s : Session σ} {method : String} {params : Json}
    {arrivals : List Arrival} {q : σ} (hserves : peer.Serves answers paths ready begun)
    (hencodes : ∀ a result, encodes a result → result.nesting < Json.maxDepth)
    (hquiet : s.Quiet ready) (hid : s.nextId < 0x8000000000000000)
    (hhear : peer.hear s.clock (Message.request s.nextId method params) s.peer = (.ok arrivals, q))
    (hready : ready q)
    (hresponds : Responds encodes answer s.nextId (begun s.peer) arrivals (begun q)) :
    ∃ (v : Json) (after : Session σ),
      s.requestWithin peer none method params = (Route.resultOf method v.normal, after) ∧
      v.Gives encodes answer ∧ after.Quiet ready ∧ after.nextId = s.nextId + 1 ∧
      after.calls = s.calls ++ [Message.request s.nextId method params] := by
  obtain ⟨before, frame, v, more, hbefore, hwrites, hresponse, hgives, hmore, hsends⟩ := hresponds
  have hholds : Frame.Holds frame v.normal := hwrites.holds
    (hresponse.nesting_le fun result hresult => hgives.nesting_lt hencodes hresult)
  have hitems := hsends.items (hserves.incomplete s.peer hquiet.ready) (by
    intro f hf
    rcases List.mem_append.1 hf with hf | hf
    · exact (hbefore f hf).1
    · rcases List.mem_cons.1 hf with rfl | hf
      · exact hholds
      · exact (hmore f hf).1)
  -- the response is among the items, and all others are of the server's own
  obtain ⟨own, rest, rfl, hown, hrest⟩ := List.map_eq_append_iff.1
    (hitems.trans List.map_append)
  obtain ⟨a, last, rfl, ha, hlast⟩ := List.map_eq_cons_iff.1 hrest
  -- what was left over comes before what is new
  have hnew : ∀ b ∈ s.incoming ++ own, b.IsOwn := by
    intro b hb
    rcases List.mem_append.1 hb with hb | hb
    · exact hquiet.incoming b hb
    · exact isOwn_of_items hbefore hown hb
  have hsend := send_heard { s with nextId := s.nextId + 1 } hquiet.closing hhear
  obtain ⟨t, ht, hclosing, hready', hid', hcalls⟩ := await_own hserves s.nextId method hnew
    (a :: last) { s with
      nextId := s.nextId + 1, peer := q, incoming := s.incoming ++ (own ++ a :: last),
      sent := s.sent ++ [Message.request s.nextId method params] } hquiet.closing hready
  obtain ⟨after, hafter, hclosing', hpeer, hnext, hsent⟩ := awaitItem_patient hclosing a.time
  refine ⟨v, { after with incoming := last }, ?_, hgives, ⟨hclosing', hpeer ▸ hready',
    fun b hb => isOwn_of_items hmore hlast hb⟩, hnext.trans hid', ?_⟩
  · rw [List.append_assoc] at ht
    simp only [requestWithin, hsend, Option.map_none]
    rw [ht]
    exact await_settled hafter ha (route_answer (hresponse.isAnswer hid) method)
  · rw [calls, hsent]
    refine hcalls.trans ?_
    rw [calls, List.filter_append]
    rfl

/-- A notification leaves the session quiet, too. -/
theorem notify_heard (hserves : peer.Serves answers paths ready begun) (method : String)
    (params : Json) {s : Session σ} (hquiet : s.Quiet ready) :
    ∃ after : Session σ, s.notify peer method params = (.ok (), after) ∧ after.Quiet ready ∧
      after.nextId = s.nextId ∧ after.calls = s.calls ++ [Message.notification method params] := by
  obtain ⟨arrivals, q, own, hhear, hready, hown, hsends⟩ :=
    hserves.notified s.clock method params s.peer hquiet.ready
  have hitems := hsends.items (hserves.incomplete s.peer hquiet.ready) fun f hf => (hown f hf).1
  refine ⟨_, send_heard s hquiet.closing hhear, ⟨hquiet.closing, hready, fun b hb => ?_⟩, rfl, ?_⟩
  · rcases List.mem_append.1 hb with hb | hb
    · exact hquiet.incoming b hb
    · exact isOwn_of_items hown hitems hb
  · rw [calls, List.filter_append]
    rfl

end Session

/-! ## A server -/

/-- Answers take little more room than their results. -/
theorem Message.length_answer {id : Nat} (hid : id < 0x8000000000000000) (result : Json) :
    (Text.encode (Message.answer (.integer id) result).compact).length ≤
      4 * (result.chars.length + 60) := by
  have hdigits : (Json.integerChars id).length ≤ 19 :=
    (Nat.length_toDigits_le_iff (by decide) (by decide)).2 (Nat.lt_trans hid (by decide))
  have h1 : (Json.quoted "id").length = 4 := by decide
  have h2 : (Json.quoted "jsonrpc").length = 9 := by decide
  have h3 : (Json.quoted "2.0").length = 5 := by decide
  have h4 : (Json.quoted "result").length = 8 := by decide
  refine Nat.le_trans (Text.length_encode_le _) (Nat.mul_le_mul_left 4 ?_)
  rw [Json.compact, String.toList_ofList]
  simp only [Message.answer, Json.chars, Json.memberChars, Json.pairChars, Json.nextMemberChars,
    List.length_cons, List.length_append, List.length_nil, h1, h2, h3, h4]
  omega

namespace Sample

/-- What a server knows to which every document has one method with one reference to it. -/
def answers : FileAnswers where
  outline := .ok (some [.node "build" ⟨6⟩ ⟨1, 2⟩ []])
  references _ := .ok (some 1)

/-- A range on the second line. -/
def range (first last : Nat) : Json :=
  let place (n : Nat) : Json := .object [("line", .integer 1), ("character", .integer n)]
  .object [("start", place first), ("end", place last)]

/-- The method. -/
def method : Json :=
  .object [("name", .text "build"), ("kind", .integer 6), ("range", range 0 20),
    ("selectionRange", range 2 7)]

/-- The reference to it. -/
def location : Json := .object [("uri", .text "file:///a.dart"), ("range", range 2 7)]

/-- The result of a request. -/
def result (asked : String) : Json :=
  if asked == "textDocument/documentSymbol" then .array [method] else .array [location]

/-- The request for the configuration. -/
def request : Json := Message.request 1 "workspace/configuration" .null

/-- The frames that the server sends when it hears a message. -/
def frames (message : Json) : List (List UInt8 × Json) :=
  match message.get? "id", (message.get? "method").bind Json.asText? with
  | some id, some asked =>
    let answer := Message.answer id (result asked)
    [(Frame.bytes request, request.normal), (Frame.bytes answer, answer.normal)]
  | _, _ => [(Frame.bytes request, request.normal)]

/-- The server, which asks for the configuration whenever it hears something. -/
def peer : Peer Unit where
  hear time message _ :=
    (.ok (arrivals [⟨time, (frames message).flatMap Prod.fst⟩] .silent), ())
  accept _ _ := (.ok (), ())

theorem sends (time : Nat) (message : Json) :
    Sends [] (arrivals [⟨time, (frames message).flatMap Prod.fst⟩] .silent) (frames message) [] :=
  ⟨0, _, rfl, by simp, rfl⟩

theorem areOwn_request : AreOwn [(Frame.bytes request, request.normal)] := by
  intro frame hframe
  have hwhole : request.IsWhole := ⟨⟨by decide, by decide⟩, trivial, trivial, trivial, trivial⟩
  rw [List.mem_singleton.1 hframe]
  exact ⟨(Frame.writes_bytes hwhole (by decide +kernel)).holds (by decide +kernel),
    "workspace/configuration", rfl⟩

theorem result_isWhole (asked : String) : (result asked).IsWhole := by
  unfold result
  split <;> simp [method, location, range, Json.IsWhole, Json.MembersAreWhole, Json.AreWhole,
    Json.MemberIsWhole, Json.FitsInteger, Json.maxUInt64]

/-- What the server sends as an answer is a frame of a response. -/
theorem answer_writes {id : Nat} (hid : id < 0x8000000000000000) (asked : String) :
    let answer := Message.answer (.integer id) (result asked)
    Frame.Writes (Frame.bytes answer) answer ∧ answer.IsResponse id := by
  intro answer
  have hfits : Json.FitsInteger id := ⟨by omega, by rw [Json.maxUInt64]; omega⟩
  have hlength : (result asked).chars.length ≤ 1000 := by
    unfold result
    split <;> decide +kernel
  refine ⟨Frame.writes_bytes ⟨hfits, trivial, result_isWhole asked, trivial⟩ ?_,
    ⟨⟨_, rfl, ?_, ?_⟩, rfl, rfl⟩⟩
  · refine Nat.le_trans (Message.length_answer hid _) ?_
    rw [Frame.maxLength]
    omega
  · show ["id", "jsonrpc", "result"].Nodup
    decide
  · simp [Json.nesting, Json.maxDepth]

theorem range_encoded (first last : UInt32) :
    Range.EncodedAs ⟨⟨1, first⟩, ⟨1, last⟩⟩ (range first.toNat last.toNat) :=
  ⟨⟨_, rfl, rfl, rfl⟩, _, rfl, rfl, rfl⟩

theorem outline_encoded :
    EncodesOutline [.node "build" ⟨6⟩ ⟨1, 2⟩ []] (result "textDocument/documentSymbol") := by
  have hnone : ∀ key good, method.get? key = none → MayHold (method.get? key) good := by
    intro key good h v hv
    rw [h] at hv
    cases hv
  have hnesting : ∀ w ∈ [Json.text "build", .integer 6, range 0 20, range 2 7], w.nesting ≤ 2 := by
    decide
  refine ⟨by decide, _, rfl, _, [], rfl, ⟨⟨_, rfl, by decide, fun m hm => .inr ?_⟩, rfl, rfl,
    ⟨by decide, by decide⟩, hnone _ _ rfl, hnone _ _ rfl, hnone _ _ rfl,
    ⟨_, _, rfl, range_encoded 0 20⟩, ⟨_, _, rfl, range_encoded 2 7⟩, rfl,
    .inl ⟨rfl, hnone _ _ rfl⟩⟩, rfl⟩
  exact hnesting m.2 (List.mem_map_of_mem hm)

theorem count_encoded : EncodesCount 1 (result "textDocument/references") := by
  refine ⟨_, rfl, rfl, fun v hv => ?_⟩
  rw [List.mem_singleton.1 hv]
  exact ⟨by decide, ⟨"file:///a.dart", ⟨⟨1, 2⟩, ⟨1, 7⟩⟩⟩, rfl, by decide +kernel, _, rfl,
    range_encoded 2 7⟩

/-- The server answers as the table says. -/
theorem serves (paths : List String) :
    peer.Serves (fun _ => answers) paths (fun _ => True) (fun _ => []) where
  incomplete _ _ := rfl
  accept _ _ _ := ⟨(), rfl, trivial⟩
  notified time method params _ _ :=
    ⟨_, (), _, rfl, trivial, areOwn_request, sends time (Message.notification method params)⟩
  outline time _ _ _ _ _ hid _ _ := by
    obtain ⟨hwrites, hresponse⟩ := answer_writes hid "textDocument/documentSymbol"
    exact ⟨_, (), rfl, trivial, [(Frame.bytes request, request.normal)], _, _, [], areOwn_request,
      hwrites, hresponse, ⟨rfl, _, rfl, outline_encoded⟩, fun _ hf => absurd hf List.not_mem_nil,
      sends time _⟩
  references time _ _ _ _ _ _ hid _ _ := by
    obtain ⟨hwrites, hresponse⟩ := answer_writes hid "textDocument/references"
    exact ⟨_, (), rfl, trivial, [(Frame.bytes request, request.normal)], _, _, [], areOwn_request,
      hwrites, hresponse, ⟨rfl, _, rfl, count_encoded⟩, fun _ hf => absurd hf List.not_mem_nil,
      sends time _⟩

end Sample

end DeadSymbols
