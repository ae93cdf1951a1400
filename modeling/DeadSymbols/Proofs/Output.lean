import DeadSymbols.Proofs.Chunks
import DeadSymbols.Proofs.Routing

/-!
# The output of a server

The output of a server has one fault at most, after which there is only the end. A client that has
come so far does not wait any more.

* `IsOutput`: what a reader gives, the end of the output included.
* `Frame.HasFault`, `arrivalsFrom_eq_of_stopped`: nothing comes after a malformed frame.
* `Session.Ended`: the client has learned that nothing more will come.
* `Session.await_waited`, `Session.requestWithin_waited`: what is taken from the output.
* `Session.requestWithin_ended`: a request fails at once if nothing more will come.
* `Peer.IsDeaf`: the server takes no request or notification any more.
-/

namespace DeadSymbols

/-! ## What a reader gives -/

/-- Messages, and after them nothing, or the end, or a fault and the end at the same time. -/
inductive IsOutput : List Arrival → Prop
  | silent : IsOutput []
  | finish (time : Nat) : IsOutput [⟨time, .finish⟩]
  | fault (time : Nat) (cause : Fault) : IsOutput [⟨time, .fault cause⟩, ⟨time, .finish⟩]
  | message (time : Nat) (value : Json) {rest : List Arrival} (h : IsOutput rest) :
    IsOutput (⟨time, .message value⟩ :: rest)

theorem isOutput_last (time : Nat) (item : Item) :
    IsOutput ((Reader.last item).map (Arrival.mk time)) := by
  cases item with
  | message value => exact .message time value (.finish time)
  | fault cause => exact .fault time cause
  | finish => exact .finish time

theorem isOutput_close (time : Nat) (reader : Reader) (ending : Ending) :
    IsOutput ((reader.close ending).map (Arrival.mk time)) := by
  unfold Reader.close
  split
  · exact .silent
  · exact .silent
  · exact isOutput_last time _
  · exact isOutput_last time _

/-- After a last item the reader has stopped, and nothing may follow. -/
theorem isOutput_drain (time : Nat) {rest : List Arrival} (hrest : IsOutput rest) (fuel : Nat)
    (bytes : List UInt8) (hstopped : (Reader.drain fuel bytes).2.pending = none → rest = []) :
    IsOutput ((Reader.drain fuel bytes).1.map (Arrival.mk time) ++ rest) := by
  fun_induction Reader.drain fuel bytes with
  | case1 => exact hrest
  | case2 => exact hrest
  | case3 _ _ value _ _ items reader hdrain ih =>
    rw [hdrain] at ih
    exact .message time value (ih hstopped)
  | case4 _ _ item _ _ _ =>
    rw [hstopped rfl, List.append_nil]
    exact isOutput_last time item

theorem isOutput_feed (time : Nat) {rest : List Arrival} (hrest : IsOutput rest) (reader : Reader)
    (bytes : List UInt8) (hstopped : (reader.feed bytes).2 = ⟨none⟩ → rest = []) :
    IsOutput ((reader.feed bytes).1.map (Arrival.mk time) ++ rest) := by
  obtain ⟨_ | pending⟩ := reader
  · exact hrest
  · exact isOutput_drain time hrest _ _ fun h => hstopped (congrArg Reader.mk h)

/-- Nothing comes from a reader that has stopped. -/
theorem arrivalsFrom_stopped (ending : Ending) (time : Nat) (chunks : List Chunk) :
    arrivalsFrom ending ⟨none⟩ time chunks = [] := by
  induction chunks generalizing time with
  | nil => rfl
  | cons chunk rest ih =>
    rw [arrivalsFrom]
    exact ih _

theorem isOutput_arrivalsFrom (ending : Ending) (chunks : List Chunk) :
    ∀ (reader : Reader) (time : Nat), IsOutput (arrivalsFrom ending reader time chunks) := by
  induction chunks with
  | nil => exact fun reader time => isOutput_close time reader ending
  | cons chunk rest ih =>
    intro reader time
    have hrest := ih (reader.feed chunk.bytes).2 (max time chunk.time)
    refine isOutput_feed _ hrest reader chunk.bytes fun hstopped => ?_
    rw [hstopped]
    exact arrivalsFrom_stopped ..

theorem isOutput_arrivals (chunks : List Chunk) (ending : Ending) :
    IsOutput (arrivals chunks ending) :=
  isOutput_arrivalsFrom ending chunks Reader.start 0

/-- The bytes of a stream have a malformed frame, which is complete. -/
inductive Frame.HasFault : List UInt8 → Prop
  | here {bytes rest : List UInt8} {cause : Fault} (h : next? bytes = some (.fault cause, rest)) :
    HasFault bytes
  | later {bytes rest : List UInt8} {value : Json} (h : next? bytes = some (.message value, rest))
      (hrest : HasFault rest) : HasFault bytes

/-- A reader stops at a malformed frame. -/
theorem Frame.HasFault.drained {bytes : List UInt8} (h : HasFault bytes) :
    (Reader.drained bytes).2 = ⟨none⟩ := by
  induction h with
  | here h => rw [Reader.drained_last h fun _ => Item.noConfusion]
  | later h _ ih => rw [Reader.drained_message h, ih]

/-- **What comes after a malformed frame** makes no difference to a reader. -/
theorem arrivalsFrom_eq_of_stopped (first more more' : List UInt8) (time : Nat)
    (after after' : List Chunk) (ending ending' : Ending) (before : List Chunk) :
    ∀ {reader : Reader} {now : Nat},
      (reader.feed (before.flatMap Chunk.bytes ++ first)).2 = ⟨none⟩ →
      arrivalsFrom ending reader now (before ++ ⟨time, first ++ more⟩ :: after) =
        arrivalsFrom ending' reader now (before ++ ⟨time, first ++ more'⟩ :: after') := by
  induction before with
  | nil =>
    intro reader now hstopped
    have hfirst : (reader.feed first).2 = ⟨none⟩ := hstopped
    simp only [List.nil_append, arrivalsFrom, Reader.feed_append, hfirst, Reader.feed_stopped,
      arrivalsFrom_stopped]
  | cons chunk rest ih =>
    intro reader now hstopped
    rw [List.flatMap_cons, List.append_assoc, Reader.feed_append] at hstopped
    simp only [List.cons_append, arrivalsFrom]
    rw [ih hstopped]

/-! ## Waits -/

/-- The fault in an item. -/
def Item.fault? : Item → Option Fault
  | .fault cause => some cause
  | _ => none

/-- The faults among some arrivals. -/
def faultsOf (arrivals : List Arrival) : List Fault := arrivals.filterMap (·.item.fault?)

/-- Whether a fault says that bytes could not be read as a message. -/
def Fault.IsDecoding : Fault → Prop
  | .json | .protocol (.oversized _ _) => True
  | _ => False

/-- A fault that does not come from the output of a server. -/
def Fault.IsOther (fault : Fault) : Prop := ¬ fault.IsDecoding ∧ fault ≠ .closed

theorem Fault.isOther_io (cause : OsError) : (io cause).IsOther := ⟨not_false, Fault.noConfusion⟩

theorem Fault.isOther_unanswered : unanswered.IsOther := ⟨not_false, Fault.noConfusion⟩

theorem Fault.isOther_timeout (method : String) : (timeout method).IsOther :=
  ⟨not_false, Fault.noConfusion⟩

/-- What settles a request is not the end of the output. -/
theorem isOther_of_route {id : Nat} {method : String} {v : Json} {fault : Fault}
    (h : route id method v = .settled (.error fault)) : fault.IsOther := by
  unfold route at h
  split at h
  · cases h
  · cases h
  · split at h
    · unfold Route.resultOf at h
      split at h <;> cases h
      exact ⟨not_false, Fault.noConfusion⟩
    · cases h
  · cases h
    exact ⟨not_false, Fault.noConfusion⟩

namespace Session

variable {σ : Type} {peer : Peer σ}

/-- The client has learned that nothing more will come. -/
def Ended (s : Session σ) : Prop :=
  ∃ a rest, s.incoming = a :: rest ∧ a.item = .finish ∧ a.time < s.atHand

/-- How a wait relates to the output that it starts with. A fault that is consumed is the result,
and there is no other way to a result of its kind. After it, and after the end, nothing more will
come. -/
structure Waited (arrivals consumed : List Arrival) (r : Except Fault Json × Session σ) : Prop where
  split : arrivals = consumed ++ r.2.incoming
  output : IsOutput r.2.incoming
  faults : faultsOf consumed = [] ∨
    ∃ cause, faultsOf consumed = [cause] ∧ r.1 = .error cause ∧ r.2.Ended
  decoding : ∀ cause, r.1 = .error cause → cause.IsDecoding → faultsOf consumed = [cause]
  closed : r.1 = .error .closed → r.2.Ended

namespace Waited

variable {arrivals consumed rest : List Arrival} {a : Arrival} {r : Except Fault Json × Session σ}

/-- A wait with a result that does not come from the output. -/
theorem of_other (hsplit : arrivals = consumed ++ r.2.incoming) (houtput : IsOutput r.2.incoming)
    (hfaults : faultsOf consumed = []) (hother : ∀ fault, r.1 = .error fault → fault.IsOther) :
    Waited arrivals consumed r where
  split := hsplit
  output := houtput
  faults := .inl hfaults
  decoding := fun cause hcause hdecoding => absurd hdecoding (hother cause hcause).1
  closed := fun hclosed => absurd rfl (hother .closed hclosed).2

/-- A wait that goes on after an arrival that is no fault. -/
theorem cons (h : Waited rest consumed r) (ha : a.item.fault? = none) :
    Waited (a :: rest) (a :: consumed) r := by
  have hsame : faultsOf (a :: consumed) = faultsOf consumed := List.filterMap_cons_none ha
  refine ⟨by rw [h.split]; rfl, h.output, ?_, ?_, h.closed⟩
  · rw [hsame]
    exact h.faults
  · rw [hsame]
    exact h.decoding

end Waited

/-- Who waits for an item has it at hand afterwards. -/
theorem awaitItem_atHand {deadline : Option Nat} {time : Nat} {s after : Session σ}
    (h : s.awaitItem? deadline time = some after) : time < after.atHand := by
  unfold awaitItem? at h
  split at h
  · rename_i htime
    cases h
    exact htime
  · split at h
    · cases h
      exact Nat.lt_succ_of_le (Nat.le_max_right _ _)
    · cases h

theorem awaitNothing_waited (method : String) (deadline : Option Nat) {s : Session σ}
    (h : IsOutput s.incoming) : Waited s.incoming [] (awaitNothing method deadline s) := by
  have hother : ∀ fault, (awaitNothing method deadline s).1 = .error fault → fault.IsOther := by
    unfold awaitNothing
    split
    · split <;> rintro fault ⟨⟩
      · exact Fault.isOther_timeout method
      · exact Fault.isOther_unanswered
    · rintro fault ⟨⟩
      exact Fault.isOther_timeout method
    · rintro fault ⟨⟩
      exact Fault.isOther_unanswered
    · rintro fault ⟨⟩
      exact Fault.isOther_unanswered
  obtain ⟨-, hincoming⟩ := awaitNothing_fault method deadline s
  exact .of_other hincoming.symm (hincoming ▸ h) rfl hother

/-- **A wait** takes messages from the output up to its fault or its end. -/
theorem await_waited (peer : Peer σ) (id : Nat) (method : String) (deadline : Option Nat)
    {arrivals : List Arrival} (h : IsOutput arrivals) : ∀ s : Session σ, ∃ consumed,
      Waited arrivals consumed (await peer id method deadline arrivals s) := by
  have hlate : ∀ {a : Arrival} {rest : List Arrival} {s : Session σ}, IsOutput (a :: rest) →
      s.awaitItem? deadline a.time = none →
      Waited (a :: rest) [] (await peer id method deadline (a :: rest) s) := by
    intro a rest s h ha
    rw [await_late ha]
    exact awaitNothing_waited method deadline (s := { s with incoming := a :: rest }) h
  induction h with
  | silent =>
    intro s
    exact ⟨[], awaitNothing_waited method deadline (s := { s with incoming := [] }) .silent⟩
  | finish time =>
    intro s
    cases ha : s.awaitItem? deadline time with
    | none => exact ⟨[], hlate (.finish time) ha⟩
    | some t =>
      have htime := awaitItem_atHand ha
      rw [await_finish (a := ⟨time, .finish⟩) ha rfl]
      refine ⟨[], rfl, .finish time, .inl rfl, fun cause hcause hdecoding => ?_,
        fun _ => ⟨_, _, rfl, rfl, htime⟩⟩
      cases hcause
      exact hdecoding.elim
  | fault time cause =>
    intro s
    cases ha : s.awaitItem? deadline time with
    | none => exact ⟨[], hlate (.fault time cause) ha⟩
    | some t =>
      -- the end comes at the time of the fault
      have htime := awaitItem_atHand ha
      rw [await_fault (a := ⟨time, .fault cause⟩) ha rfl]
      have hended : Ended { t with incoming := [⟨time, .finish⟩] } := ⟨_, _, rfl, rfl, htime⟩
      exact ⟨[⟨time, .fault cause⟩], rfl, .finish time, .inr ⟨cause, rfl, rfl, hended⟩,
        fun cause' hcause _ => by cases hcause; rfl, fun _ => hended⟩
  | @message time v rest hrest ih =>
    intro s
    cases ha : s.awaitItem? deadline time with
    | none => exact ⟨[], hlate (.message time v hrest) ha⟩
    | some t =>
      let a : Arrival := ⟨time, .message v⟩
      have ha' : s.awaitItem? deadline a.time = some t := ha
      cases hroute : route id method v with
      | settled result =>
        rw [await_settled ha' rfl hroute]
        refine ⟨[a], .of_other rfl hrest rfl fun fault hfault => ?_⟩
        rw [show result = .error fault from hfault] at hroute
        exact isOther_of_route hroute
      | passed =>
        obtain ⟨consumed, hwaited⟩ := ih t
        rw [await_passed ha' rfl hroute]
        exact ⟨a :: consumed, hwaited.cons rfl⟩
      | asked answer =>
        rcases haccept : peer.accept answer t.peer with ⟨cause | _, p⟩
        · have hreply : t.reply peer answer = (.error (.io cause), { t with peer := p }) := by
            rw [reply, haccept]
          rw [await_refused ha' rfl hroute hreply]
          refine ⟨[a], .of_other rfl hrest rfl fun fault hfault => ?_⟩
          cases hfault
          exact Fault.isOther_io cause
        · have hreply : t.reply peer answer =
              (.ok (), { t with peer := p, sent := t.sent ++ [answer] }) := by
            rw [reply, haccept]
          obtain ⟨consumed, hwaited⟩ := ih { t with peer := p, sent := t.sent ++ [answer] }
          rw [await_asked ha' rfl hroute hreply]
          exact ⟨a :: consumed, hwaited.cons rfl⟩

/-! ## Messages and requests -/

/-- Why a request fails if nothing more will come. -/
def refusal (peer : Peer σ) (message : Json) (s : Session σ) : Fault :=
  match (peer.hear s.clock message s.peer).1 with
  | .ok _ => .closed
  | .error cause => .io cause

/-- What may become of a message to a silent server. -/
theorem send_silent (hsilent : peer.IsSilent) (message : Json) (s : Session σ) :
    s.isAbandoned = true ∧ s.send peer message = (.error .unanswered, s) ∨
      s.isAbandoned = false ∧ ∃ p,
        ((∃ cause, peer.hear s.clock message s.peer = (.error cause, p) ∧
            s.send peer message = (.error (.io cause), { s with peer := p })) ∨
          peer.hear s.clock message s.peer = (.ok [], p) ∧
            s.send peer message = (.ok (), { s with peer := p, sent := s.sent ++ [message] })) := by
  have hhear := hsilent s.clock message s.peer
  unfold send
  cases s.isAbandoned with
  | true => exact .inl ⟨rfl, rfl⟩
  | false =>
    right
    rcases hp : peer.hear s.clock message s.peer with ⟨cause | more, p⟩
    all_goals rw [hp] at hhear
    · exact ⟨rfl, p, .inl ⟨cause, rfl, rfl⟩⟩
    · obtain rfl : more = [] := by
        rcases hhear with hnone | ⟨cause, hcause⟩
        · cases hnone; rfl
        · cases hcause
      refine ⟨rfl, p, .inr ⟨rfl, ?_⟩⟩
      simp only [Bool.false_eq_true, if_false, List.append_nil]

/-- The fault of a message that is not written does not come from the output of the server. -/
theorem send_isOther {message : Json} {s : Session σ} {fault : Fault}
    (h : (s.send peer message).1 = .error fault) : fault.IsOther := by
  unfold send at h
  split at h
  · cases h
    exact Fault.isOther_unanswered
  · split at h
    · cases h
      exact Fault.isOther_io _
    · cases h

/-- **A request** takes messages from the output up to its fault or its end. -/
theorem requestWithin_waited (hsilent : peer.IsSilent) (limit : Option Nat) (method : String)
    (params : Json) {s : Session σ} (h : IsOutput s.incoming) : ∃ consumed,
      Waited s.incoming consumed (s.requestWithin peer limit method params) := by
  let t : Session σ := { s with nextId := s.nextId + 1 }
  rcases send_silent hsilent (Message.request s.nextId method params) t with
    ⟨-, hsend⟩ | ⟨-, p, ⟨cause, -, hsend⟩ | ⟨-, hsend⟩⟩
  all_goals
    simp only [t] at hsend
    simp only [requestWithin, hsend]
  · refine ⟨[], .of_other rfl h rfl ?_⟩
    rintro fault ⟨⟩
    exact Fault.isOther_unanswered
  · refine ⟨[], .of_other rfl h rfl ?_⟩
    rintro fault ⟨⟩
    exact Fault.isOther_io cause
  · exact await_waited peer s.nextId method (limit.map (s.clock + ·)) h
      { t with peer := p, sent := s.sent ++ [Message.request s.nextId method params] }

/-- **A request after the end** fails at once. -/
theorem requestWithin_ended (hsilent : peer.IsSilent) (limit : Option Nat) (method : String)
    (params : Json) {s : Session σ} (h : s.Ended) :
    let r := s.requestWithin peer limit method params
    r.2.incoming = s.incoming ∧ r.2.clock = s.clock ∧ r.2.atHand = s.atHand ∧
      (s.isAbandoned = false →
        r.1 = .error (s.refusal peer (Message.request s.nextId method params))) := by
  obtain ⟨a, rest, hincoming, hitem, htime⟩ := h
  let t : Session σ := { s with nextId := s.nextId + 1 }
  intro r
  rcases send_silent hsilent (Message.request s.nextId method params) t with
    ⟨habandoned, hsend⟩ | ⟨-, p, ⟨cause, hhear, hsend⟩ | ⟨hhear, hsend⟩⟩
  · have hr : r = (.error .unanswered, t) := by simp only [r, requestWithin, t, hsend]
    rw [hr]
    refine ⟨rfl, rfl, rfl, fun h => ?_⟩
    cases habandoned.symm.trans h
  · have hr : r = (.error (.io cause), { t with peer := p }) := by
      simp only [r, requestWithin, t, hsend]
    rw [hr, refusal, show peer.hear s.clock _ s.peer = _ from hhear]
    exact ⟨rfl, rfl, rfl, fun _ => rfl⟩
  · -- the end is at hand, and so the wait for it takes no time
    let u : Session σ := { t with
      peer := p
      sent := s.sent ++ [Message.request s.nextId method params] }
    have ha : u.awaitItem? (limit.map (s.clock + ·)) a.time = some u := if_pos htime
    have hr : r = (.error .closed, { u with incoming := a :: rest }) := by
      have hfinish : await peer s.nextId method (limit.map (s.clock + ·)) (a :: rest) u = _ :=
        await_finish ha hitem
      rw [← hfinish]
      simp only [r, requestWithin, t, hsend, ← hincoming]
      rfl
    rw [hr, refusal, show peer.hear s.clock _ s.peer = _ from hhear]
    exact ⟨hincoming.symm, rfl, rfl, fun _ => rfl⟩

end Session

/-- A server that takes no request and no notification from now on. -/
def Peer.IsDeaf {σ : Type} (peer : Peer σ) (p : σ) : Prop :=
  ∃ deaf : σ → Prop, deaf p ∧ ∀ time message q, deaf q →
    ∃ cause after, peer.hear time message q = (.error cause, after) ∧ deaf after

/-- A server that fails for good is deaf when it is dead. -/
theorem Peer.FailsForGood.isDeaf {σ : Type} {peer : Peer σ} {dead : σ → Prop}
    (h : peer.FailsForGood dead) {p : σ} (hdead : dead p) : peer.IsDeaf p :=
  ⟨dead, hdead, h.hear_dead⟩

/-- Nothing is written to a deaf server. -/
theorem Session.send_deaf {σ : Type} {peer : Peer σ} {s : Session σ} (h : peer.IsDeaf s.peer)
    (message : Json) : ∃ fault p, s.send peer message = (.error fault, { s with peer := p }) ∧
      peer.IsDeaf p ∧ (s.isAbandoned = false → ∃ cause, fault = .io cause) := by
  obtain ⟨deaf, hdeaf, hhear⟩ := h
  unfold send
  cases s.isAbandoned with
  | true => exact ⟨.unanswered, s.peer, rfl, ⟨deaf, hdeaf, hhear⟩, fun h => nomatch h⟩
  | false =>
    obtain ⟨cause, p, hp, hdeaf'⟩ := hhear s.clock message s.peer hdeaf
    rw [hp]
    exact ⟨.io cause, p, rfl, ⟨deaf, hdeaf', hhear⟩, fun _ => ⟨cause, rfl⟩⟩

/-- A request to a deaf server fails at once. -/
theorem Session.requestWithin_deaf {σ : Type} {peer : Peer σ} {s : Session σ}
    (h : peer.IsDeaf s.peer) (limit : Option Nat) (method : String) (params : Json) :
    ∃ fault p, s.requestWithin peer limit method params =
        (.error fault, { s with nextId := s.nextId + 1, peer := p }) ∧
      peer.IsDeaf p ∧ (s.isAbandoned = false → ∃ cause, fault = .io cause) := by
  obtain ⟨fault, p, hsend, hdeaf, hcause⟩ := send_deaf (s := { s with nextId := s.nextId + 1 }) h
    (Message.request s.nextId method params)
  exact ⟨fault, p, by simp only [requestWithin, hsend], hdeaf, hcause⟩

end DeadSymbols
