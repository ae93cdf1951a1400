import DeadSymbols.Proofs.Exchange
import DeadSymbols.Session.Stream

/-!
# Routing of answers

A client makes calls one after another while the server sends what it likes when it likes.

* `ClientCall`, `Client.run`: what a client can do, and runs of calls with their exchanges.
* `readable_arrivals`: a reader of a stream never makes up an error of the server.
* `Client.run_routes`: every request has an id of its own, and only an answer with that id, which
  arrives while the request waits, completes it.
-/

namespace DeadSymbols

/-! ## What a reader gives -/

/-- An item that is not itself an error in an answer. -/
def Item.IsReadable (item : Item) : Prop := ∀ fault, item = .fault fault → ¬ fault.IsServer

theorem Item.isReadable_message (v : Json) : (Item.message v).IsReadable := by
  intro fault h; cases h

theorem Item.isReadable_finish : Item.finish.IsReadable := by
  intro fault h; cases h

theorem Item.isReadable_fault {fault : Fault} (h : ¬ fault.IsServer) :
    (Item.fault fault).IsReadable := by
  intro fault' h'; cases h'; exact h

namespace Frame

theorem readable_ofLine {length : Option Nat} {line : List UInt8} {cause : Fault}
    (h : Header.ofLine length line = .fault cause) : ¬ cause.IsServer := by
  unfold Header.ofLine at h
  split at h
  · cases h; exact not_false
  · simp only at h
    split at h
    · split at h <;> cases h
    · cases h

theorem readable_readBody {ended : Bool} {length : Nat} {bytes rest : List UInt8} {item : Item}
    (h : readBody ended length bytes = some (item, rest)) : item.IsReadable := by
  unfold readBody at h
  split at h
  · cases h; exact Item.isReadable_fault not_false
  · split at h
    · split at h
      · cases h; exact Item.isReadable_fault not_false
      · cases h
    · split at h
      · cases h; exact Item.isReadable_message _
      · cases h; exact Item.isReadable_fault not_false

theorem readable_endOfHeader (length : Option Nat) : (endOfHeader length).IsReadable := by
  unfold endOfHeader
  split
  · exact Item.isReadable_finish
  · exact Item.isReadable_fault not_false

theorem readable_readFrom {ended : Bool} {length : Option Nat} {line bytes rest : List UInt8}
    {item : Item} (h : readFrom ended length line bytes = some (item, rest)) : item.IsReadable := by
  fun_induction readFrom ended length line bytes with
  | case1 => cases h
  | case2 => cases h; exact readable_endOfHeader _
  | case3 => cases h; exact readable_endOfHeader _
  | case4 => exact readable_readBody h
  | case5 _ _ _ _ cause hline => cases h; exact Item.isReadable_fault (readable_ofLine hline)
  | case6 _ _ _ _ _ _ _ ih => exact ih h
  | case7 => exact readable_readBody h
  | case8 _ _ _ _ _ cause hline => cases h; exact Item.isReadable_fault (readable_ofLine hline)
  | case9 _ _ _ _ _ ih => exact ih h

theorem readable_read (bytes : List UInt8) : (read bytes).1.IsReadable := by
  unfold read
  cases h : readFrom true none [] bytes with
  | none => exact Item.isReadable_finish
  | some p =>
    obtain ⟨item, rest⟩ := p
    exact readable_readFrom h

end Frame

namespace Reader

theorem readable_last {item : Item} (h : item.IsReadable) : ∀ i ∈ last item, i.IsReadable := by
  intro i hi
  unfold last at hi
  split at hi
  · rw [List.mem_singleton.1 hi]; exact h
  · rcases List.mem_cons.1 hi with rfl | hi
    · exact h
    · rw [List.mem_singleton.1 hi]; exact Item.isReadable_finish

theorem readable_drain (fuel : Nat) (bytes : List UInt8) :
    ∀ i ∈ (drain fuel bytes).1, i.IsReadable := by
  fun_induction drain fuel bytes with
  | case1 => simp
  | case2 => simp
  | case3 _ _ value rest _ items reader hrest ih =>
    rw [hrest] at ih
    intro i hi
    rcases List.mem_cons.1 hi with rfl | hi
    · exact Item.isReadable_message value
    · exact ih i hi
  | case4 _ _ item rest hother hnext => exact readable_last (Frame.readable_readFrom hnext)

theorem readable_close (reader : Reader) (ending : Ending) :
    ∀ i ∈ reader.close ending, i.IsReadable := by
  unfold close
  split
  · simp
  · simp
  · exact readable_last (Item.isReadable_fault not_false)
  · exact readable_last (Frame.readable_read _)

end Reader

theorem readable_arrivalsFrom (ending : Ending) (reader : Reader) (time : Nat)
    (chunks : List Chunk) : Readable (arrivalsFrom ending reader time chunks) := by
  induction chunks generalizing reader time with
  | nil =>
    intro a ha
    obtain ⟨i, hi, rfl⟩ := List.mem_map.1 ha
    exact reader.readable_close ending i hi
  | cons chunk rest ih =>
    intro a ha
    simp only [arrivalsFrom] at ha
    rcases List.mem_append.1 ha with ha | ha
    -- the items of the first chunk, and those of the others
    · obtain ⟨i, hi, rfl⟩ := List.mem_map.1 ha
      unfold Reader.feed at hi
      split at hi
      · cases hi
      · exact Reader.readable_drain _ _ i hi
    · exact ih _ _ a ha

/-- **A reader of a stream never makes up an error of the server.** -/
theorem readable_arrivals (chunks : List Chunk) (ending : Ending) :
    Readable (arrivals chunks ending) :=
  readable_arrivalsFrom ending Reader.start 0 chunks

/-! ## Runs of clients -/

/-- Something that a client can do. -/
inductive ClientCall where
  | handshake (root : String) (options : Option Json)
  | request (method : String) (params : Json)
  | notify (method : String) (params : Json)
  | openDocument (path : String)
  | documentSymbols (document : Document)
  | references (document : Document) (position : Position)
  | closeDocument (document : Document)
  | shutdown

namespace Client

variable {σ : Type}

/-- The session after a call. -/
def perform (client : Client σ) : ClientCall → Session σ → Session σ
  | .handshake root options, s => (client.handshake root options s).2
  | .request method params, s => (client.request method params s).2
  | .notify method params, s => (client.notify method params s).2
  | .openDocument path, s => (client.openDocument path s).2
  | .documentSymbols document, s => (client.documentSymbols document s).2
  | .references document position, s => (client.references document position s).2
  | .closeDocument document, s => (client.closeDocument document s).2
  | .shutdown, s => (client.shutdown s).2

/-- The request that a call makes, if it makes one: for how long it waits at most, the method and
the parameters. -/
def requestOf? (client : Client σ) : ClientCall → Option (Option Nat × String × Json)
  | .handshake root options => (Uri.ofFolder? root).map fun uri =>
    (client.requestLimit, "initialize", Message.introduction client.processId uri
      ((Path.fileName? root).getD "workspace") options)
  | .request method params => some (client.requestLimit, method, params)
  | .documentSymbols document => some (client.requestLimit, "textDocument/documentSymbol",
    .object [Message.textDocument document.uri])
  | .references document position => some (client.requestLimit, "textDocument/references",
    .object [("context", .object [("includeDeclaration", .bool true)]),
      ("position", Message.position position), Message.textDocument document.uri])
  | .shutdown => some (some client.shutdownLimit, "shutdown", .null)
  | .notify _ _ | .openDocument _ | .closeDocument _ => none

/-- The exchange that a call makes, if it makes one. -/
def exchange? (client : Client σ) (call : ClientCall) (s : Session σ) : Option Exchange :=
  (client.requestOf? call).map fun (limit, method, params) =>
    s.exchange client.peer limit method params

section

variable {client : Client σ} {call : ClientCall}

theorem exchange?_eq_none (h : client.requestOf? call = none) (s : Session σ) :
    client.exchange? call s = none := by
  rw [exchange?, h]
  rfl

theorem exchange?_eq_some {limit : Option Nat} {method : String} {params : Json}
    (h : client.requestOf? call = some (limit, method, params)) (s : Session σ) :
    client.exchange? call s = some (s.exchange client.peer limit method params) := by
  rw [exchange?, h]
  rfl

end

/-- Makes calls one after another; gives their exchanges and the session at the end. With
each call comes the time at which its caller gives up, if ever. -/
def run (client : Client σ) :
    List (ClientCall × Option Nat) → Session σ → List Exchange × Session σ
  | [], s => ([], s)
  | (call, closing) :: rest, s =>
    let s := { s with closing := closing }
    let (exchanges, last) := client.run rest (client.perform call s)
    ((client.exchange? call s).toList ++ exchanges, last)

end Client

/-! ## Steps of runs -/

/-- Nothing was consumed and nothing was asked for between two states of a session. -/
structure Session.Idle {σ : Type} (s after : Session σ) : Prop where
  incoming : after.incoming = s.incoming
  nextId : after.nextId = s.nextId
  requests : after.sent.filter Json.isRequest = s.sent.filter Json.isRequest

namespace Session

variable {σ : Type} {peer : Peer σ}

theorem Idle.refl (s : Session σ) : s.Idle s := ⟨rfl, rfl, rfl⟩

theorem Idle.trans {s t u : Session σ} (h : s.Idle t) (h' : t.Idle u) : s.Idle u :=
  ⟨h'.incoming.trans h.incoming, h'.nextId.trans h.nextId, h'.requests.trans h.requests⟩

/-- A notification asks for nothing, whether or not it is written. -/
theorem notify_idle (hsilent : peer.IsSilent) (method : String) (params : Json) (s : Session σ) :
    s.Idle (s.notify peer method params).2 := by
  rcases hsend : s.send peer (Message.notification method params) with ⟨fault | _, t⟩
  · obtain ⟨-, hincoming, hid, hsent⟩ := send_fault hsend
    simp only [notify, hsend]
    exact ⟨hincoming, hid, by rw [hsent]⟩
  · obtain ⟨hincoming, hid, hsent⟩ := send_ok hsilent hsend
    simp only [notify, hsend]
    refine ⟨hincoming, hid, ?_⟩
    rw [hsent, List.filter_append]
    simp [Message.isRequest_notification]

/-- One session comes from another without a request: the client tells the server something, or it
reads a file, and meanwhile what has arrived comes to hand. -/
inductive Tells (peer : Peer σ) (s : Session σ) : Session σ → Prop
  | refl : Tells peer s s
  | read {t : Session σ} (h : Tells peer s t) :
    Tells peer s { t with atHand := max t.atHand (t.clock + 1) }
  | notify {t : Session σ} (h : Tells peer s t) (method : String) (params : Json) :
    Tells peer s (t.notify peer method params).2

/-- Who only tells a silent server something is idle. -/
theorem Tells.idle {s t : Session σ} (h : s.Tells peer t) (hsilent : peer.IsSilent) : s.Idle t := by
  induction h with
  | refl => exact .refl s
  | read _ ih => exact ih.trans ⟨rfl, rfl, rfl⟩
  | notify _ method params ih => exact ih.trans (notify_idle hsilent method params _)

theorem Exchanged.idle {e : Exchange} {s after last : Session σ} (h : s.Exchanged e after)
    (hidle : after.Idle last) : s.Exchanged e last where
  id := h.id
  nextId := hidle.nextId.trans h.nextId
  split := by rw [hidle.incoming]; exact h.split
  requests := hidle.requests.trans h.requests
  unwritten := h.unwritten
  completed := h.completed

end Session

namespace Client

variable {σ : Type} {client : Client σ}

theorem andThen_tells {α β : Type} {exchange : Except Fault α × Session σ}
    {next : α → Session σ → Except Fault β × Session σ} {s : Session σ}
    (h : s.Tells client.peer exchange.2)
    (hnext : ∀ (a : α) {t : Session σ}, s.Tells client.peer t → s.Tells client.peer (next a t).2) :
    s.Tells client.peer (andThen exchange next).2 := by
  rcases exchange with ⟨fault | a, t⟩
  · exact h
  · exact hnext a h

/-- A call that makes no request only tells the server something. -/
theorem perform_tells {call : ClientCall} (h : client.requestOf? call = none) (s : Session σ) :
    s.Tells client.peer (client.perform call s) := by
  cases call with
  | handshake root options =>
    have huri : Uri.ofFolder? root = none := by simpa [requestOf?] using h
    simp only [perform, handshake, huri]
    exact .refl
  | notify method params => exact .notify .refl method params
  | closeDocument document => exact .notify .refl _ _
  | openDocument path =>
    -- a file without a document, a client that was given up, a file that cannot be read, a text
    simp only [perform, openDocument]
    split
    · exact .refl
    · split
      · exact .refl
      · split
        · exact .read .refl
        · rw [andThen_state]
          exact .notify (.read .refl) _ _
  | _ => cases h

/-- So does a call after its request. -/
theorem tells_after_request {call : ClientCall} {limit : Option Nat} {method : String}
    {params : Json} (h : client.requestOf? call = some (limit, method, params)) (s : Session σ) :
    (s.requestWithin client.peer limit method params).2.Tells client.peer
      (client.perform call s) := by
  cases call with
  | handshake root options =>
    cases huri : Uri.ofFolder? root with
    | none => simp [requestOf?, huri] at h
    | some uri =>
      simp only [requestOf?, huri, Option.map_some, Option.some.injEq, Prod.mk.injEq] at h
      obtain ⟨rfl, rfl, rfl⟩ := h
      simp only [perform, handshake, huri]
      exact andThen_tells .refl fun result t ht => andThen_tells (.notify ht _ _) fun _ t ht => ht
  | request method params => cases h; exact .refl
  | documentSymbols document => cases h; exact andThen_tells .refl fun _ t ht => ht
  | references document position =>
    cases h
    exact andThen_tells (andThen_tells .refl fun _ t ht => ht) fun _ t ht => ht
  | shutdown => cases h; exact andThen_tells .refl fun _ t ht => .notify ht _ _
  | _ => cases h

/-- What came of a call: nothing was asked for, or there was one exchange. -/
theorem perform_spec (hsilent : client.peer.IsSilent) (call : ClientCall) (s : Session σ)
    (hread : Readable s.incoming) :
    match client.exchange? call s with
    | none => s.Idle (client.perform call s)
    | some e => s.Exchanged e (client.perform call s) := by
  unfold exchange?
  cases h : client.requestOf? call with
  | none => exact (perform_tells h s).idle hsilent
  | some request =>
    obtain ⟨limit, method, params⟩ := request
    exact (Session.exchange_spec hsilent limit method params s hread).idle
      ((tells_after_request h s).idle hsilent)

/-- What a run of calls has to do with the sessions before and after it. -/
structure Ran (s : Session σ) (exchanges : List Exchange) (last : Session σ) : Prop where
  ids : exchanges.map Exchange.id = List.range' s.nextId exchanges.length
  split : s.incoming = exchanges.flatMap Exchange.consumed ++ last.incoming
  requests : last.sent.filter Json.isRequest = s.sent.filter Json.isRequest ++
    (exchanges.filter (·.written)).map Exchange.request
  unwritten : ∀ e ∈ exchanges, e.written = false → e.consumed = [] ∧ ¬ FromServer e.result
  completed : ∀ e ∈ exchanges, FromServer e.result →
    CompletedBy e.id e.method e.consumed e.result

theorem Ran.of_idle {s middle last : Session σ} {exchanges : List Exchange} (hidle : s.Idle middle)
    (h : Ran middle exchanges last) : Ran s exchanges last where
  ids := by rw [← hidle.nextId]; exact h.ids
  split := by rw [← hidle.incoming]; exact h.split
  requests := by rw [← hidle.requests]; exact h.requests
  unwritten := h.unwritten
  completed := h.completed

theorem Ran.cons {s middle last : Session σ} {e : Exchange} {exchanges : List Exchange}
    (he : s.Exchanged e middle) (h : Ran middle exchanges last) : Ran s (e :: exchanges) last where
  ids := by rw [List.map_cons, h.ids, he.id, he.nextId]; rfl
  split := by rw [he.split, h.split, List.flatMap_cons, List.append_assoc]
  requests := by
    rw [h.requests, he.requests, List.filter_cons, List.append_assoc]
    cases e.written <;> rfl
  unwritten := List.forall_mem_cons.2 ⟨he.unwritten, h.unwritten⟩
  completed := List.forall_mem_cons.2 ⟨he.completed, h.completed⟩

/-- **Runs.** Every run of calls keeps to the order of ids and of arrivals. -/
theorem run_spec (hsilent : client.peer.IsSilent) (calls : List (ClientCall × Option Nat)) :
    ∀ s : Session σ, Readable s.incoming → Ran s (client.run calls s).1 (client.run calls s).2 := by
  induction calls with
  | nil => intro s _; exact ⟨rfl, rfl, (List.append_nil _).symm, by simp [run], by simp [run]⟩
  | cons call rest ih =>
    intro s hread
    -- the exchange of the first call, if it makes one, is in front of those of the others
    obtain ⟨call, closing⟩ := call
    have hclosing : s.Idle { s with closing := closing } := ⟨rfl, rfl, rfl⟩
    have hstep := perform_spec hsilent call { s with closing := closing } hread
    simp only [run]
    cases he : client.exchange? call { s with closing := closing } with
    | none =>
      rw [he] at hstep
      have hrest : Readable (client.perform call { s with closing := closing }).incoming := by
        rw [hstep.incoming]
        exact hread
      exact (ih _ hrest).of_idle (hclosing.trans hstep)
    | some e =>
      rw [he] at hstep
      -- what the exchange leaves is a part of what there was
      have hrest : Readable (client.perform call { s with closing := closing }).incoming := by
        intro a ha
        refine hread a ?_
        rw [show s.incoming = _ from hstep.split]
        exact List.mem_append_right _ ha
      exact ((ih _ hrest).cons hstep).of_idle hclosing

/-- Some calls, and others after them. -/
theorem run_append (xs ys : List (ClientCall × Option Nat)) : ∀ s : Session σ,
    client.run (xs ++ ys) s =
      ((client.run xs s).1 ++ (client.run ys (client.run xs s).2).1,
        (client.run ys (client.run xs s).2).2) := by
  induction xs with
  | nil => exact fun s => rfl
  | cons c rest ih =>
    intro s
    simp only [List.cons_append, run, ih, List.append_assoc]

/-! ## Whole runs -/

/-- How many arrivals the requests up to number `id` consumed. The last of them is at this place in
the output of the server, counted from one. -/
def place (exchanges : List Exchange) (id : Nat) : Nat :=
  ((exchanges.take id).flatMap Exchange.consumed).length

/-- The id of an exchange is its number in the run. -/
theorem Ran.number {s last : Session σ} {before after : List Exchange} {e : Exchange}
    (h : Ran s (before ++ e :: after) last) : e.id = s.nextId + before.length := by
  have hid : ((before ++ e :: after).map Exchange.id)[before.length]? = some e.id := by simp
  rw [h.ids, List.getElem?_range' (by simp)] at hid
  have := Option.some.inj hid
  omega

theorem place_number (before after : List Exchange) (e : Exchange) :
    place (before ++ e :: after) (before.length + 1) =
      (before.flatMap Exchange.consumed).length + e.consumed.length := by
  have htake : (before ++ e :: after).take (before.length + 1) = before ++ [e] := by
    rw [List.take_append, List.take_of_length_le (Nat.le_succ _)]
    simp
  rw [place, htake, List.flatMap_append, List.length_append]
  simp

/-- The last arrival that an exchange consumed is at its place. -/
theorem Ran.getElem_place {s last : Session σ} {exchanges : List Exchange}
    (h : Ran s exchanges last) (hid : s.nextId = 1) {e : Exchange} (he : e ∈ exchanges)
    {earlier : List Arrival} {answer : Arrival} (hconsumed : e.consumed = earlier ++ [answer]) :
    s.incoming[place exchanges e.id - 1]? = some answer := by
  obtain ⟨before, after, hsplit⟩ := List.append_of_mem he
  subst hsplit
  have hnumber : e.id = before.length + 1 := by rw [h.number, hid, Nat.add_comm]
  have hplace := place_number before after e
  rw [← hnumber, hconsumed, List.length_append, List.length_singleton, ← Nat.add_assoc,
    ← List.length_append] at hplace
  have hincoming : s.incoming = (before.flatMap Exchange.consumed ++ earlier) ++
      answer :: (after.flatMap Exchange.consumed ++ last.incoming) := by
    rw [h.split, List.flatMap_append, List.flatMap_cons, hconsumed]
    simp
  -- the place is counted from one
  rw [hplace, hincoming, Nat.add_sub_cancel]
  simp

/-- Exchanges in which something was consumed end at different places. -/
theorem Ran.place_lt {s last : Session σ} {exchanges : List Exchange} (h : Ran s exchanges last)
    (hid : s.nextId = 1) {e e' : Exchange} (he : e ∈ exchanges) (he' : e' ∈ exchanges)
    (hlt : e.id < e'.id) (hsome : e'.consumed ≠ []) :
    place exchanges e.id < place exchanges e'.id := by
  obtain ⟨before, after, hsplit⟩ := List.append_of_mem he'
  subst hsplit
  have hnumber : e'.id = before.length + 1 := by rw [h.number, hid, Nat.add_comm]
  have hpos : 0 < e'.consumed.length := List.length_pos_iff.2 hsome
  have hplace' := place_number before after e'
  rw [← hnumber] at hplace'
  -- up to `e` there are only exchanges before `e'`
  have hplace : place (before ++ e' :: after) e.id ≤ (before.flatMap Exchange.consumed).length := by
    have hle : e.id ≤ before.length := by omega
    rw [place, List.take_append_of_le_length hle]
    have hprefix := List.take_append_drop e.id before
    rw [← hprefix, List.flatMap_append, List.length_append, hprefix]
    omega
  omega

end Client

/-- The session with a server of which the whole output is given. -/
def Session.opened {σ : Type} (server : σ) (chunks : List Chunk) (ending : Ending) : Session σ where
  peer := server
  incoming := arrivals chunks ending

theorem Json.eq_of_asInt64 {v : Json} {n : Int} (h : v.asInt64? = some n) : v = .integer n := by
  unfold asInt64? at h
  split at h
  · split at h
    · rw [Option.some.inj h]
    · cases h
  · cases h

theorem Json.IsAnswer.id_eq {id : Nat} {message : Json} (h : message.IsAnswer id) :
    message.get? "id" = some (.integer id) := by
  obtain ⟨theirs, hmessage, hid⟩ := Option.bind_eq_some_iff.1 h.2
  rw [hmessage, Json.eq_of_asInt64 hid]

/-- **Routing of answers.** Let a client make any calls, each of which may be given up at some time,
while the server sends any bytes at any times and messages to it may fail. The requests have the
ids 1, 2, 3 and so on, also those that could not be written. What the server sends is consumed in
order, each arrival during one request at most. A request with a result or an error of the server
consumed an answer with its own id as the last arrival, and no such answer before that one. So
no arrival completes two requests, and none completes a request with another id. -/
theorem Client.run_routes {σ : Type} (client : Client σ) (hsilent : client.peer.IsSilent)
    (server : σ) (chunks : List Chunk) (ending : Ending)
    (calls : List (ClientCall × Option Nat)) :
    let exchanges := (client.run calls (.opened server chunks ending)).1
    let last := (client.run calls (.opened server chunks ending)).2
    exchanges.map Exchange.id = List.range' 1 exchanges.length ∧
      last.sent.filter Json.isRequest = (exchanges.filter (·.written)).map Exchange.request ∧
      arrivals chunks ending = exchanges.flatMap Exchange.consumed ++ last.incoming ∧
      (∀ e ∈ exchanges, e.written = false → e.consumed = [] ∧ ¬ FromServer e.result) ∧
      (∀ e ∈ exchanges, FromServer e.result → ∃ before answer message,
        e.consumed = before ++ [answer] ∧ answer.item = .message message ∧
        (message.get? "method").bind Json.asText? = none ∧
        message.get? "id" = some (.integer e.id) ∧
        (e.result = match message.get? "error" with
          | none => .ok ((message.get? "result").getD .null)
          | some error => .error (.server e.method
            (((error.get? "code").bind Json.asInt64?).getD 0)
            (((error.get? "message").bind Json.asText?).getD ""))) ∧
        (∀ a ∈ before, ¬ a.IsAnswer e.id) ∧
        (arrivals chunks ending)[place exchanges e.id - 1]? = some answer ∧
        ∀ id ≠ e.id, ¬ answer.IsAnswer id) ∧
      ∀ e ∈ exchanges, ∀ e' ∈ exchanges, FromServer e.result → FromServer e'.result →
        e.id < e'.id → place exchanges e.id < place exchanges e'.id := by
  intro exchanges last
  have hran : Ran (.opened server chunks ending) exchanges last :=
    run_spec hsilent calls _ (readable_arrivals chunks ending)
  have hrequests : last.sent.filter Json.isRequest =
      (exchanges.filter (·.written)).map Exchange.request := by
    simpa [Session.opened] using hran.requests
  refine ⟨hran.ids, hrequests, hran.split, hran.unwritten, ?_, ?_⟩
  · intro e he hresult
    obtain ⟨before, answer, message, hconsumed, hitem, hanswer, hmessage, hfirst⟩ :=
      hran.completed e he hresult
    have hunique : ∀ id ≠ e.id, ¬ answer.IsAnswer id := by
      intro id hne h
      exact hne (h.unique ⟨message, hitem, hanswer⟩)
    refine ⟨before, answer, message, hconsumed, hitem, hanswer.1, hanswer.id_eq, ?_, hfirst,
      hran.getElem_place rfl he hconsumed, hunique⟩
    rw [hmessage, Route.resultOf]
    cases message.get? "error" <;> rfl
  · intro e he e' he' _ hresult' hlt
    obtain ⟨before, answer, message, hconsumed, -⟩ := hran.completed e' he' hresult'
    have hsome : e'.consumed ≠ [] := by simp [hconsumed]
    exact hran.place_lt rfl he he' hlt hsome

/-- A server with a fixed output is silent. -/
theorem Stream.isSilent_peer : Stream.peer.IsSilent := by
  intro time message stream
  rcases hr : stream.room with _ | _ | room
  · exact .inl (by simp [Stream.peer, Stream.take, hr, Except.map])
  · exact .inr ⟨Stream.refusal, by simp [Stream.peer, Stream.take, hr, Except.map]⟩
  · exact .inl (by simp [Stream.peer, Stream.take, hr, Except.map])

/-- A server with a fixed output is dead when it has no room for a message. -/
theorem Stream.failsForGood_peer : Stream.peer.FailsForGood fun stream => stream.room = some 0 where
  hear_dead _ _ stream h := ⟨refusal, stream, by simp [peer, take, h, Except.map], h⟩
  accept_dead _ stream h := ⟨refusal, stream, by simp [peer, take, h], h⟩
  dead_hear {time message stream cause after} h := by
    rcases hroom : stream.room with _ | _ | n
    all_goals
      simp only [peer, take, hroom, Except.map, Prod.mk.injEq, reduceCtorEq, false_and] at h
    rw [← h.2, hroom]
  dead_accept {answer stream cause after} h := by
    rcases hroom : stream.room with _ | _ | n
    all_goals
      simp only [peer, take, hroom, Prod.mk.injEq, reduceCtorEq, false_and] at h
    rw [← h.2, hroom]

/-- A client that waits for at most ten milliseconds. -/
def hastyClient : Client Stream where
  peer := Stream.peer
  files := ⟨.folder [], []⟩
  languageId := "dart"
  requestLimit := some 10
  processId := 1

/-- The late answer to the first request, a request of the server with the number of the second,
and the answer to the second. -/
def lateChunks : List Chunk :=
  [⟨15, Frame.bytes (Message.answer (.integer 1) (.integer 7)) ++
    Frame.bytes (Message.request 2 "ask" .null) ++
    Frame.bytes (Message.answer (.integer 2) (.integer 8))⟩]

/-- The number in a result. -/
def numberOf : Except Fault Json → Option Int
  | .ok v => v.asInt64?
  | .error _ => none

/-- The first request times out, and neither its late answer nor the request of the server is taken
for the answer to the second one. -/
theorem Client.run_routes_late :
    let exchanges := (hastyClient.run [(.request "a" .null, none), (.request "b" .null, none)]
      (.opened ⟨none⟩ lateChunks .silent)).1
    hastyClient.peer.IsSilent ∧ exchanges.map Exchange.id = List.range' 1 exchanges.length ∧
      exchanges.map (fun e => (e.id, e.consumed.length, numberOf e.result)) =
        [(1, 0, none), (2, 3, some 8)] := by
  intro exchanges
  obtain ⟨hids, -⟩ := hastyClient.run_routes Stream.isSilent_peer ⟨none⟩ lateChunks .silent
    [(.request "a" .null, none), (.request "b" .null, none)]
  exact ⟨Stream.isSilent_peer, hids, by decide +kernel⟩

end DeadSymbols
