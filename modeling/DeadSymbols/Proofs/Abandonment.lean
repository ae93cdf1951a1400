import DeadSymbols.CommandLine.Run
import DeadSymbols.Proofs.Replay
import DeadSymbols.Proofs.Routing

/-!
# Abandoned sessions

A session is abandoned when the caller of the client gives up, and when the client waits for what
never comes and has no limit for that. From then on nothing is written and nothing is consumed.

* `Session.EndsIn`: a wait without an end.
* `Session.await_closing`, `Session.requestWithin_closing`: nothing else abandons a session of which
  nobody gives up.
* `Client.perform_closing`, `Client.perform_abandoned`: the same for calls, and calls in abandoned
  sessions.
* `Session.Finishes`: the server finishes some time.
* `Client.survey_lost`, `Client.survey_ends`: what abandons a conversation, and what keeps it from
  being abandoned.
-/

namespace DeadSymbols

namespace Session

variable {σ : Type} {peer : Peer σ} {s t : Session σ}

/-- Nobody gives up later: nobody ever does, or the session is abandoned already. -/
def IsSteady (s : Session σ) : Prop := s.closing = none ∨ s.isAbandoned = true

/-- Who is abandoned now is abandoned later. -/
theorem isAbandoned_mono (h : s.isAbandoned = true) (hclosing : t.closing = s.closing)
    (hclock : s.clock ≤ t.clock) : t.isAbandoned = true := by
  unfold isAbandoned at h ⊢
  rw [hclosing]
  cases hc : s.closing with
  | none =>
    rw [hc] at h
    cases h
  | some c =>
    rw [hc] at h
    have hle : c ≤ s.clock := by simpa using h
    simpa using Nat.le_trans hle hclock

/-- Who begins to wait for ever is abandoned. -/
theorem isAbandoned_closing_clock (s : Session σ) :
    ({ s with closing := some s.clock } : Session σ).isAbandoned = true := by
  simp [isAbandoned]

/-- Nobody gives up one of two sessions later: nobody ever does, or both are abandoned already. -/
def SameSteady (s t : Session σ) : Prop :=
  s.closing = none ∧ t.closing = none ∨ s.isAbandoned = true ∧ t.isAbandoned = true

theorem SameSteady.isAbandoned (h : SameSteady s t) : s.isAbandoned = t.isAbandoned := by
  rcases h with ⟨hs, ht⟩ | ⟨hs, ht⟩
  · rw [isAbandoned_of_patient hs, isAbandoned_of_patient ht]
  · rw [hs, ht]

/-! ## Waits without an end -/

/-- The client waits for ever: it has no limit, and nothing is left that could settle its
request. -/
structure IsLost (limit : Option Nat) (s : Session σ) : Prop where
  unlimited : limit = none
  silent : s.incoming = []
  abandoned : s.isAbandoned = true

/-- A wait has no end, and with it the session ends. -/
structure EndsIn (limit : Option Nat) (s : Session σ) (r : Except Fault Json × Session σ) : Prop
    extends r.2.IsLost limit where
  patient : s.closing = none
  result : r.1 = .error .unanswered

/-- Of the session before the wait only the patience of the caller counts. -/
theorem EndsIn.of_same {limit : Option Nat} {r : Except Fault Json × Session σ}
    (h : EndsIn limit t r) (hclosing : t.closing = s.closing) : EndsIn limit s r :=
  { h with patient := hclosing ▸ h.patient }

theorem awaitNothing_closing (method : String) (deadline : Option Nat) {s : Session σ}
    (hsilent : deadline = none → s.closing = none → s.incoming = []) :
    let r := awaitNothing method deadline s
    r.2.closing = s.closing ∨ EndsIn deadline s r := by
  unfold awaitNothing
  cases deadline with
  | some d =>
    left
    cases s.closing with
    | none => rfl
    | some c => by_cases hd : d ≤ c <;> simp [hd]
  | none =>
    cases hc : s.closing with
    | some c => exact .inl rfl
    | none => exact .inr ⟨⟨rfl, hsilent rfl hc, isAbandoned_closing_clock _⟩, hc, rfl⟩

/-- Who has no limit and is not given up waits for any item. -/
theorem awaitItem_unlimited (hpatient : s.closing = none) (time : Nat) :
    s.awaitItem? none time ≠ none := by
  unfold awaitItem?
  split
  · exact Option.some_ne_none _
  · rw [if_pos (by simp [hpatient])]
    exact Option.some_ne_none _

theorem awaitItem_closing {deadline : Option Nat} {time : Nat}
    (h : s.awaitItem? deadline time = some t) : t.closing = s.closing ∧ s.clock ≤ t.clock := by
  unfold awaitItem? at h
  split at h
  · cases h
    exact ⟨rfl, Nat.le_refl _⟩
  · split at h
    · cases h
      exact ⟨rfl, Nat.le_max_left _ _⟩
    · cases h

theorem reply_closing {answer : Json} {result : Except Fault Unit}
    (h : s.reply peer answer = (result, t)) : t.closing = s.closing ∧ t.clock = s.clock := by
  unfold reply at h
  split at h <;> cases h <;> exact ⟨rfl, rfl⟩

theorem send_closing (peer : Peer σ) (message : Json) (s : Session σ) :
    (s.send peer message).2.closing = s.closing ∧ (s.send peer message).2.clock = s.clock := by
  unfold send
  split
  · exact ⟨rfl, rfl⟩
  · split <;> exact ⟨rfl, rfl⟩

/-- **A wait** abandons the session just if it has no end. -/
theorem await_closing (peer : Peer σ) (id : Nat) (method : String) (deadline : Option Nat)
    (arrivals : List Arrival) : ∀ s : Session σ,
      let r := await peer id method deadline arrivals s
      r.2.closing = s.closing ∨ EndsIn deadline s r := by
  induction arrivals with
  | nil =>
    intro s
    have hnothing := awaitNothing_closing method deadline (s := { s with incoming := [] })
      fun _ _ => rfl
    exact hnothing.imp_right fun h => h.of_same rfl
  | cons a rest ih =>
    intro s
    cases ha : s.awaitItem? deadline a.time with
    | none =>
      let u : Session σ := { s with incoming := a :: rest }
      have hlimited : deadline = none → u.closing = none → u.incoming = [] := by
        rintro rfl hpatient
        exact absurd ha (awaitItem_unlimited (s := s) hpatient a.time)
      rw [await_late ha]
      exact (awaitNothing_closing method deadline hlimited).imp_right fun h => h.of_same rfl
    | some t =>
      obtain ⟨hclosing, -⟩ := awaitItem_closing ha
      cases hitem : a.item with
      | finish => rw [await_finish ha hitem]; exact .inl hclosing
      | fault cause => rw [await_fault ha hitem]; exact .inl hclosing
      | message v =>
        cases hroute : route id method v with
        | settled result => rw [await_settled ha hitem hroute]; exact .inl hclosing
        | passed =>
          rw [await_passed ha hitem hroute]
          exact (ih t).imp (·.trans hclosing) fun h => h.of_same hclosing
        | asked answer =>
          rcases hreply : t.reply peer answer with ⟨fault | _, replied⟩
          all_goals have hsame := (reply_closing hreply).1.trans hclosing
          · rw [await_refused ha hitem hroute hreply]
            exact .inl hsame
          · rw [await_asked ha hitem hroute hreply]
            exact (ih replied).imp (·.trans hsame) fun h => h.of_same hsame

/-- **A request** abandons the session just if the wait for its answer has no end. -/
theorem requestWithin_closing (peer : Peer σ) (limit : Option Nat) (method : String)
    (params : Json) (s : Session σ) :
    let r := s.requestWithin peer limit method params
    r.2.closing = s.closing ∨ EndsIn limit s r := by
  let u : Session σ := { s with nextId := s.nextId + 1 }
  obtain ⟨hclosing, -⟩ := send_closing peer (Message.request s.nextId method params) u
  rcases hsend : u.send peer (Message.request s.nextId method params) with ⟨fault | _, t⟩
  all_goals
    rw [hsend] at hclosing
    simp only [u] at hsend
    simp only [requestWithin, hsend]
  · exact .inl hclosing
  · refine (await_closing peer s.nextId method _ t.incoming t).imp (·.trans hclosing) fun h => ?_
    exact { h.of_same (show t.closing = s.closing from hclosing) with
      unlimited := Option.map_eq_none_iff.1 h.unlimited }

/-! ## Abandoned sessions -/

theorem send_abandoned (h : s.isAbandoned = true) (message : Json) :
    s.send peer message = (.error .unanswered, s) := by
  rw [send, if_pos h]

theorem requestWithin_abandoned (h : s.isAbandoned = true) (limit : Option Nat) (method : String)
    (params : Json) : s.requestWithin peer limit method params =
      (.error .unanswered, { s with nextId := s.nextId + 1 }) := by
  have hnext : ({ s with nextId := s.nextId + 1 } : Session σ).isAbandoned = true := h
  simp only [requestWithin, send_abandoned hnext]

/-- Who tells a server something does not change how long anybody waits, and no time passes. -/
theorem Tells.closing (h : s.Tells peer t) : t.closing = s.closing ∧ t.clock = s.clock := by
  induction h with
  | refl => exact ⟨rfl, rfl⟩
  | read _ ih => exact ih
  | @notify u _ method params ih =>
    obtain ⟨hclosing, hclock⟩ := send_closing peer (Message.notification method params) u
    exact ⟨hclosing.trans ih.1, hclock.trans ih.2⟩

theorem Tells.isAbandoned (h : s.Tells peer t) (hs : s.isAbandoned = true) : t.isAbandoned = true :=
  isAbandoned_mono hs h.closing.1 (Nat.le_of_eq h.closing.2.symm)

/-- Nothing is written in an abandoned session, and so the server sends nothing because of it. -/
theorem Tells.incoming (h : s.Tells peer t) (hs : s.isAbandoned = true) :
    t.incoming = s.incoming := by
  induction h with
  | refl => rfl
  | read _ ih => exact ih
  | @notify u hu method params ih =>
    rw [Session.notify, send_abandoned (hu.isAbandoned hs)]
    exact ih

theorem IsLost.of_tells {limit : Option Nat} (h : s.IsLost limit) (htells : s.Tells peer t) :
    t.IsLost limit where
  unlimited := h.unlimited
  silent := (htells.incoming h.abandoned).trans h.silent
  abandoned := htells.isAbandoned h.abandoned

/-! ## Servers that finish -/

/-- The server finishes some time. -/
def Finishes (s : Session σ) : Prop := ∃ a ∈ s.incoming, a.item = .finish

instance (item : Item) : Decidable (item = .finish) :=
  match item with
  | .finish => isTrue rfl
  | .message _ => isFalse Item.noConfusion
  | .fault _ => isFalse Item.noConfusion

instance (s : Session σ) : Decidable s.Finishes :=
  inferInstanceAs (Decidable (∃ a ∈ s.incoming, a.item = .finish))

theorem Finishes.not_isLost {limit : Option Nat} (h : s.Finishes) : ¬ s.IsLost limit := by
  intro hlost
  obtain ⟨a, ha, -⟩ := h
  rw [hlost.silent] at ha
  exact List.not_mem_nil ha

theorem awaitNothing_incoming (method : String) (deadline : Option Nat) (s : Session σ) :
    (awaitNothing method deadline s).2.incoming = s.incoming := by
  unfold awaitNothing
  split
  · split <;> rfl
  all_goals rfl

/-- A wait does not consume the end of what a server sends. -/
theorem await_finishes (peer : Peer σ) (id : Nat) (method : String) (deadline : Option Nat)
    {arrivals : List Arrival} (h : ∃ a ∈ arrivals, a.item = .finish) : ∀ s : Session σ,
      (await peer id method deadline arrivals s).2.Finishes := by
  induction arrivals with
  | nil =>
    obtain ⟨a, ha, -⟩ := h
    exact absurd ha List.not_mem_nil
  | cons a rest ih =>
    intro s
    have hlater : a.item ≠ .finish → ∃ b ∈ rest, b.item = .finish := by
      intro hitem
      obtain ⟨b, hb, hfinish⟩ := h
      rcases List.mem_cons.1 hb with rfl | hb
      · exact absurd hfinish hitem
      · exact ⟨b, hb, hfinish⟩
    cases ha : s.awaitItem? deadline a.time with
    | none =>
      rw [await_late ha, Finishes, awaitNothing_incoming]
      exact h
    | some t =>
      cases hitem : a.item with
      | finish => rw [await_finish ha hitem]; exact h
      | fault cause => rw [await_fault ha hitem]; exact hlater (by simp [hitem])
      | message v =>
        have hrest := hlater (by simp [hitem])
        cases hroute : route id method v with
        | settled result => rw [await_settled ha hitem hroute]; exact hrest
        | passed => rw [await_passed ha hitem hroute]; exact ih hrest t
        | asked answer =>
          rcases hreply : t.reply peer answer with ⟨fault | _, replied⟩
          · rw [await_refused ha hitem hroute hreply]; exact hrest
          · rw [await_asked ha hitem hroute hreply]; exact ih hrest replied

theorem send_finishes (peer : Peer σ) (message : Json) (h : s.Finishes) :
    (s.send peer message).2.Finishes := by
  obtain ⟨a, ha, hfinish⟩ := h
  unfold send
  split
  · exact ⟨a, ha, hfinish⟩
  · split
    · exact ⟨a, ha, hfinish⟩
    · exact ⟨a, List.mem_append_left _ ha, hfinish⟩

theorem requestWithin_finishes (peer : Peer σ) (limit : Option Nat) (method : String)
    (params : Json) (h : s.Finishes) : (s.requestWithin peer limit method params).2.Finishes := by
  have hsent := send_finishes (s := { s with nextId := s.nextId + 1 }) peer
    (Message.request s.nextId method params) h
  rw [requestWithin]
  rcases hsend : send peer (Message.request s.nextId method params)
    ({ s with nextId := s.nextId + 1 } : Session σ) with ⟨fault | _, t⟩
  all_goals rw [hsend] at hsent
  · exact hsent
  · exact await_finishes peer _ _ _ hsent t

theorem Tells.finishes (h : s.Tells peer t) (hs : s.Finishes) : t.Finishes := by
  induction h with
  | refl => exact hs
  | read _ ih => exact ih
  | notify _ method params ih => exact send_finishes peer _ ih

end Session

namespace Client

variable {σ : Type} {client : Client σ} {call : ClientCall} {s t : Session σ}

/-- **A call** abandons the session just if it makes a request and the wait for the answer has no
end. -/
theorem perform_closing (client : Client σ) (call : ClientCall) (s : Session σ) :
    (client.perform call s).closing = s.closing ∨ ∃ limit method params,
      client.requestOf? call = some (limit, method, params) ∧
        Session.EndsIn limit s (s.requestWithin client.peer limit method params) := by
  cases hcall : client.requestOf? call with
  | none => exact .inl (perform_tells hcall s).closing.1
  | some request =>
    obtain ⟨limit, method, params⟩ := request
    have htells := tells_after_request hcall s
    exact (Session.requestWithin_closing client.peer limit method params s).imp
      htells.closing.1.trans fun hends => ⟨limit, method, params, rfl, hends⟩

/-- A call in an abandoned session leaves it abandoned. -/
theorem perform_abandoned (client : Client σ) (call : ClientCall) (h : s.isAbandoned = true) :
    (client.perform call s).isAbandoned = true := by
  cases hcall : client.requestOf? call with
  | none => exact (perform_tells hcall s).isAbandoned h
  | some request =>
    obtain ⟨limit, method, params⟩ := request
    have htells := tells_after_request hcall s
    rw [Session.requestWithin_abandoned h] at htells
    exact htells.isAbandoned h

/-- A call in a session that nobody gives up later leaves it so. -/
theorem perform_steady (client : Client σ) (call : ClientCall) (h : s.IsSteady) :
    (client.perform call s).IsSteady := by
  rcases h with hpatient | habandoned
  · refine (client.perform_closing call s).imp (·.trans hpatient) ?_
    rintro ⟨limit, method, params, hcall, hends⟩
    exact (tells_after_request hcall s).isAbandoned hends.abandoned
  · exact .inr (client.perform_abandoned call habandoned)

/-- A request without a limit is one for which the client has none. -/
theorem requestLimit_of_unlimited {method : String} {params : Json}
    (h : client.requestOf? call = some (none, method, params)) : client.requestLimit = none := by
  cases call with
  | handshake root options =>
    obtain ⟨uri, -, heq⟩ := Option.map_eq_some_iff.1 h
    exact congrArg Prod.fst heq
  | request method params => exact congrArg Prod.fst (Option.some.inj h)
  | documentSymbols document => exact congrArg Prod.fst (Option.some.inj h)
  | references document position => exact congrArg Prod.fst (Option.some.inj h)
  | _ => cases h

/-- **If nobody gives up**, a call abandons the session just if the client waits for ever. -/
theorem perform_lost (client : Client σ) (call : ClientCall)
    (h : s.closing = none ∨ s.IsLost client.requestLimit) :
    (client.perform call s).closing = none ∨
      (client.perform call s).IsLost client.requestLimit := by
  rcases h with hpatient | hlost
  · refine (client.perform_closing call s).imp (·.trans hpatient) ?_
    rintro ⟨limit, method, params, hcall, hends⟩
    obtain rfl := hends.unlimited
    rw [requestLimit_of_unlimited hcall]
    exact hends.toIsLost.of_tells (tells_after_request hcall s)
  · right
    cases hcall : client.requestOf? call with
    | none => exact hlost.of_tells (perform_tells hcall s)
    | some request =>
      obtain ⟨limit, method, params⟩ := request
      have htells := tells_after_request hcall s
      rw [Session.requestWithin_abandoned hlost.abandoned] at htells
      have hsame : ({ s with nextId := s.nextId + 1 } : Session σ).IsLost client.requestLimit :=
        ⟨hlost.unlimited, hlost.silent, hlost.abandoned⟩
      exact hsame.of_tells htells

theorem perform_finishes (client : Client σ) (call : ClientCall) (h : s.Finishes) :
    (client.perform call s).Finishes := by
  cases hcall : client.requestOf? call with
  | none => exact (perform_tells hcall s).finishes h
  | some request =>
    obtain ⟨limit, method, params⟩ := request
    exact (tells_after_request hcall s).finishes
      (Session.requestWithin_finishes client.peer limit method params h)

/-- A handshake that abandons the session is not granted, and fails. -/
theorem handshake_closing (client : Client σ) (root : String) (options : Option Json)
    (s : Session σ) :
    let r := client.handshake root options s
    r.2.closing = s.closing ∨ (∃ fault, r.1 = .error fault) ∧ ¬ ∃ uri ∈ Uri.ofFolder? root,
      s.Granted client.peer client.requestLimit "initialize" (Message.introduction
        client.processId uri ((Path.fileName? root).getD "workspace") options) := by
  refine (client.perform_closing (.handshake root options) s).imp_right ?_
  rintro ⟨_, _, _, hcall, hends⟩
  cases huri : Uri.ofFolder? root with
  | none => simp [requestOf?, huri] at hcall
  | some uri =>
    simp only [requestOf?, huri, Option.map_some, Option.some.injEq, Prod.mk.injEq] at hcall
    obtain ⟨rfl, rfl, rfl⟩ := hcall
    have hresult := hends.result
    refine ⟨⟨.unanswered, ?_⟩, ?_⟩
    · simp only [handshake, huri, request]
      rw [andThen_fault hresult]
    · rintro ⟨_, hmem, hgranted⟩
      obtain rfl := Option.some.inj hmem
      obtain ⟨v, hv⟩ := (Session.requestWithin_ok_iff _ _ _ _ _).2 hgranted
      cases hv.symm.trans hresult

/-- Who gets through the handshake is not abandoned. -/
theorem handshake_patient {root : String} {options : Option Json} {v : Json}
    (h : client.handshake root options s = (.ok v, t)) (hpatient : s.closing = none) :
    t.closing = none := by
  rcases client.handshake_closing root options s with hsame | ⟨⟨fault, herror⟩, -⟩
  · rw [h] at hsame
    exact hsame.trans hpatient
  · rw [h] at herror
    cases herror

/-- The farewell has a limit, and so the wait for its answer has an end. -/
theorem shutdown_closing (client : Client σ) (s : Session σ) :
    (client.shutdown s).2.closing = s.closing := by
  refine (client.perform_closing .shutdown s).resolve_right ?_
  rintro ⟨limit, method, params, hcall, hends⟩
  rw [hends.unlimited] at hcall
  cases hcall

/-- Nothing is granted in an abandoned session, and so its farewell fails. -/
theorem shutdown_abandoned (client : Client σ) (h : s.isAbandoned = true) :
    ¬ s.Granted client.peer (some client.shutdownLimit) "shutdown" .null ∧
      (client.shutdown s).1 ≠ .ok () := by
  have hrefused : s.requestWithin client.peer (some client.shutdownLimit) "shutdown" .null = _ :=
    Session.requestWithin_abandoned h _ _ _
  rw [← Session.requestWithin_ok_iff, shutdown, hrefused]
  refine ⟨?_, fun hok => ?_⟩
  · rintro ⟨v, hv⟩
    cases hv
  · cases hok

end Client

/-! ## Scans -/

/-- What is asked of a client by a call of its service. -/
def Call.asked : Call → ClientCall
  | .openDocument path _ => .openDocument path
  | .documentSymbols document _ => .documentSymbols document
  | .references document place _ => .references document place
  | .closeDocument document _ => .closeDocument document

namespace Client

variable {σ : Type} {client : Client σ} {s : Session σ}

theorem service_after (client : Client σ) (call : Call) (s : Session σ) :
    client.service.after s call = client.perform call.asked s := by
  cases call <;> rfl

/-- What stays true during a call stays true during a scan. -/
theorem scan_keeps {P : Session σ → Prop}
    (hkeeps : ∀ call t, P t → P (client.perform call t)) (config : Config) (base : String)
    (files : List SourceFile) (h : P s) : P (scan config base client.service files s).state := by
  have hnever : ∀ t, client.service.cancelled t = false := fun _ => rfl
  obtain ⟨-, -, hwatched⟩ := scan_watched config hnever base files s
  rw [hwatched, (scan_answers config client.service none base files s).2]
  refine Service.replay_keeps (fun call t ht => ?_) _ h
  rw [service_after]
  exact hkeeps call.asked t ht

/-- What stays true during a call stays true during a conversation. -/
theorem survey_keeps {P : Session σ → Prop}
    (hkeeps : ∀ call t, P t → P (client.perform call t)) (root : String) (config : Config)
    (files : List SourceFile) (h : P s) : P (client.survey root config files s).2 := by
  have hintroduced := hkeeps (.handshake root config.server.initializationOptions) s h
  simp only [perform] at hintroduced
  rcases hshake : client.handshake root config.server.initializationOptions s with ⟨fault | v, t⟩
  all_goals
    rw [hshake] at hintroduced
    simp only [survey, hshake, andThen]
  · exact hintroduced
  · exact hkeeps .shutdown _ (scan_keeps hkeeps config root files hintroduced)

/-- **If nobody gives up**, a conversation is abandoned just if the client waits for ever. -/
theorem survey_lost (client : Client σ) (root : String) (config : Config) (files : List SourceFile)
    (hpatient : s.closing = none) :
    let last := (client.survey root config files s).2
    last.closing = none ∨ last.IsLost client.requestLimit :=
  survey_keeps (P := fun t : Session σ => t.closing = none ∨ t.IsLost client.requestLimit)
    (fun call _ ht => client.perform_lost call ht) root config files (.inl hpatient)

/-- **A client with a limit, or with a server that finishes, never waits for ever.** -/
theorem survey_ends (client : Client σ) (root : String) (config : Config) (files : List SourceFile)
    (hpatient : s.closing = none) (hends : client.requestLimit ≠ none ∨ s.Finishes) :
    (client.survey root config files s).2.isAbandoned = false := by
  refine Session.isAbandoned_of_patient
    ((client.survey_lost root config files hpatient).resolve_right fun hlost => ?_)
  rcases hends with hlimit | hfinishes
  · exact hlimit hlost.unlimited
  · exact (survey_keeps (fun call _ ht => client.perform_finishes call ht) root config files
      hfinishes).not_isLost hlost

end Client

end DeadSymbols
