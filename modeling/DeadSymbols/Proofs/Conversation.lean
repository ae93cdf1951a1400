import DeadSymbols.Proofs.Course
import DeadSymbols.Proofs.Stages

/-!
# The course of a conversation

A run of the program has one conversation with the server that it starts. What the server takes is
the first part of a script: the handshake, a block for each file that can be loaded, and the
farewell. A client that waits for ever says nothing more, and so never comes to its farewell.

* `Topic.script`: all that a client may say to a server.
* `Client.KeepsCourse`: what becomes of a conversation.
* `Client.survey_course`: every conversation keeps its course.
* `CommandLine.Run.session_course`: so does every run of the program.
-/

namespace DeadSymbols

/-- All that a client may say to a server: the handshake, the documents, and the farewell. -/
def Topic.script (uris : List String) (counts : List Nat) : List Topic :=
  [⟨"initialize", none⟩, ⟨"initialized", none⟩] ++
    (blocks uris counts ++ [⟨"shutdown", none⟩, ⟨"exit", none⟩])

namespace Client

open Session

variable {σ : Type} {client : Client σ} {dead : σ → Prop}

/-- What is offered keeps to the order of the files. A client that is abandoned may leave a document
open. -/
structure KeepsOrder (client : Client σ) (files : List SourceFile) (abandoned : Bool)
    (log : List (Json × Bool)) : Prop where
  /-- What is taken is the first part of a script with one block for each file that can be loaded,
  and the rest comes in the order of the script. -/
  course : ∃ counts, counts.length = (client.loadable files).length ∧
    Follows (Topic.script (client.loadable files) counts) log
  /-- Only the document that is open is named. -/
  named : ∃ current, (offers log).foldlM Topic.next none = some current ∧
    (abandoned = false → current = none)

/-- How a conversation goes on after a handshake that succeeds. A client that is abandoned never
comes to its farewell. -/
structure Completed (abandoned : Bool) (granted : Prop) (farewell : Except Fault Unit)
    (log : List (Json × Bool)) : Prop where
  shutdown : (attempts log).count ⟨"shutdown", none⟩ = if abandoned then 0 else 1
  exit : ⟨"exit", none⟩ ∈ attempts log ↔ granted
  last : ∀ before told after, log = before ++ (Message.notification "exit" .null, told) :: after →
    after = []
  farewell : farewell = .ok () ↔ granted ∧ ⟨"exit", none⟩ ∈ taken log

/-- So does the first part of it. -/
theorem KeepsOrder.of_append {files : List SourceFile} {abandoned : Bool}
    {log rest : List (Json × Bool)} (h : client.KeepsOrder files abandoned (log ++ rest)) :
    client.KeepsOrder files true log where
  course := by
    obtain ⟨counts, hlength, htaken, horder⟩ := h.course
    rw [taken_append] at htaken
    rw [attempts_append] at horder
    exact ⟨counts, hlength, (List.prefix_append _ _).trans htaken,
      (List.sublist_append_left _ _).trans horder⟩
  named := by
    obtain ⟨current, hfold, -⟩ := h.named
    rw [offers_append, List.foldlM_append] at hfold
    obtain ⟨before, hbefore, -⟩ := Option.bind_eq_some_iff.1 hfold
    exact ⟨before, hbefore, fun h => Bool.noConfusion h⟩

section Parts

variable {files : List SourceFile} {granted : Prop} {farewell : Except Fault Unit}
  {first offered asked last ended : List (Json × Bool)} {counts : List Nat}

/-- What is offered before the client may say that the server should exit. -/
theorem exit_not_mem (hfirst : attempts first = [⟨"initialize", none⟩, ⟨"initialized", none⟩])
    (hnamed : ∀ topic ∈ attempts offered, topic.uri ≠ none)
    (hasked : attempts asked = [⟨"shutdown", none⟩]) :
    ⟨"exit", none⟩ ∉ attempts (first ++ (offered ++ asked)) := by
  rw [attempts_append, attempts_append, hfirst, hasked]
  intro hmem
  rcases List.mem_append.1 hmem with hmem | hmem
  · exact absurd hmem (by decide)
  · rcases List.mem_append.1 hmem with hmem | hmem
    · exact hnamed _ hmem rfl
    · exact absurd hmem (by decide)

/-- **The parts of a conversation** keep to the order of the script. -/
theorem keepsOrder_of_parts
    (hfirst : attempts first = [⟨"initialize", none⟩, ⟨"initialized", none⟩])
    (hlength : counts.length = (client.loadable files).length) (hbrackets : Brackets offered)
    (hoffered : Fulfils (Topic.blocks (client.loadable files) counts) offered)
    (hended : attempts ended <+: [⟨"shutdown", none⟩, ⟨"exit", none⟩])
    (hlasting : Lasting (first ++ (offered ++ ended))) :
    client.KeepsOrder files false (first ++ (offered ++ ended)) where
  course := by
    obtain ⟨hbegun, hlater, -⟩ := List.pairwise_append.1 hlasting
    obtain ⟨-, hlast, -⟩ := List.pairwise_append.1 hlater
    have hfirst' : Fulfils _ first := .of_attempts hfirst hbegun
    have hlater' := hoffered.follows (.of_isPrefix hended hlast) hlater
    exact ⟨counts, hlength, hfirst'.follows hlater' hlasting⟩
  named := by
    have hunnamed : ∀ topic ∈ ([⟨"shutdown", none⟩, ⟨"exit", none⟩] : List Topic),
        topic.uri = none ∧ topic.method ≠ "textDocument/didOpen" := by decide
    have hbegun : Brackets first := brackets_of_unnamed (by rw [hfirst]; decide)
    have hlast : Brackets ended :=
      brackets_of_unnamed fun topic htopic => hunnamed topic (hended.subset htopic)
    exact ⟨none, hbegun.append (hbrackets.append hlast), fun _ => rfl⟩

theorem Departs.attempts_eq (h : Departs granted farewell last) :
    attempts last = [] ∧ ¬ granted ∨ attempts last = [⟨"exit", none⟩] ∧ granted := by
  rcases h with ⟨hgranted, told, rfl, -⟩ | ⟨hgranted, rfl, -⟩
  · exact .inr ⟨rfl, hgranted⟩
  · exact .inl ⟨rfl, hgranted⟩

theorem Departs.attempts_isPrefix (h : Departs granted farewell last)
    (hasked : attempts asked = [⟨"shutdown", none⟩]) :
    attempts (asked ++ last) <+: [⟨"shutdown", none⟩, ⟨"exit", none⟩] := by
  rw [attempts_append, hasked]
  rcases h.attempts_eq with ⟨h, -⟩ | ⟨h, -⟩ <;> rw [h]
  · exact List.prefix_append [_] [_]
  · exact List.prefix_rfl

/-- Nothing is said after the server is told to exit. -/
theorem Departs.nothing_later (h : Departs granted farewell last)
    (hbefore : ⟨"exit", none⟩ ∉ attempts first) {before after : List (Json × Bool)}
    {told : Bool}
    (heq : first ++ last = before ++ (Message.notification "exit" .null, told) :: after) :
    after = [] := by
  have hno : ∀ {more}, first ≠ before ++ (Message.notification "exit" .null, told) :: more := by
    rintro more rfl
    exact hbefore (mem_attempts (List.mem_append_right _ List.mem_cons_self) rfl)
  rcases h with ⟨-, told', rfl, -⟩ | ⟨-, rfl, -⟩
  · rcases after.eq_nil_or_concat with rfl | ⟨more, o, rfl⟩
    · rfl
    · have hconcat : before ++ (Message.notification "exit" .null, told) :: more.concat o =
          (before ++ (Message.notification "exit" .null, told) :: more) ++ [o] := by simp
      exact absurd (List.append_inj_left' (heq.trans hconcat) rfl) hno
  · rw [List.append_nil] at heq
    exact absurd heq hno

/-- The farewell succeeds just if the server takes the last message. -/
theorem Departs.succeeds_iff (h : Departs granted farewell last) :
    farewell = .ok () ↔ granted ∧ ⟨"exit", none⟩ ∈ taken last := by
  rcases h with ⟨hgranted, told, rfl, hok⟩ | ⟨hgranted, rfl, hfault⟩
  · rw [hok]
    cases told
    · exact iff_of_false Bool.false_ne_true fun h => absurd h.2 List.not_mem_nil
    · exact iff_of_true rfl ⟨hgranted, List.mem_cons_self⟩
  · exact iff_of_false hfault fun h => hgranted h.1

/-- **The parts of a conversation** make up the whole of it. -/
theorem completed_of_parts
    (hfirst : attempts first = [⟨"initialize", none⟩, ⟨"initialized", none⟩])
    (hnamed : ∀ topic ∈ attempts offered, topic.uri ≠ none)
    (hasked : attempts asked = [⟨"shutdown", none⟩]) (hlast : Departs granted farewell last) :
    Completed false granted farewell (first ++ (offered ++ (asked ++ last))) := by
  have hbefore := exit_not_mem hfirst hnamed hasked
  have hsplit : first ++ (offered ++ (asked ++ last)) = (first ++ (offered ++ asked)) ++ last := by
    simp only [List.append_assoc]
  have hnone : (attempts offered).count ⟨"shutdown", none⟩ = 0 :=
    List.count_eq_zero.2 fun hmem => hnamed _ hmem rfl
  rw [hsplit]
  refine ⟨?_, ?_, fun before told after heq => hlast.nothing_later hbefore heq, ?_⟩
  · simp only [attempts_append, hfirst, hasked, List.count_append, hnone]
    rcases hlast.attempts_eq with ⟨h, -⟩ | ⟨h, -⟩ <;> rw [h] <;> decide
  · rw [attempts_append, List.mem_append, or_iff_right hbefore]
    rcases hlast.attempts_eq with ⟨h, hgranted⟩ | ⟨h, hgranted⟩ <;> rw [h]
    · exact iff_of_false List.not_mem_nil hgranted
    · exact iff_of_true List.mem_cons_self hgranted
  · rw [taken_append, List.mem_append, or_iff_right fun hmem => hbefore (taken_subset _ hmem)]
    exact hlast.succeeds_iff

end Parts

/-- A handshake that fails is the first part of the script, too. -/
theorem keepsOrder_of_isPrefix {files : List SourceFile} {first : List (Json × Bool)}
    (hfirst : attempts first <+: [⟨"initialize", none⟩, ⟨"initialized", none⟩])
    (hlasting : Lasting first) : client.KeepsOrder files false first where
  course := by
    refine ⟨List.replicate (client.loadable files).length 0, List.length_replicate, ?_⟩
    exact .of_isPrefix (hfirst.trans (List.prefix_append _ _)) hlasting
  named := by
    refine ⟨none, brackets_of_unnamed fun topic htopic => ?_, fun _ => rfl⟩
    have hunnamed : ∀ topic ∈ ([⟨"initialize", none⟩, ⟨"initialized", none⟩] : List Topic),
        topic.uri = none ∧ topic.method ≠ "textDocument/didOpen" := by decide
    exact hunnamed topic (hfirst.subset htopic)

/-- A client that is abandoned during its scan never comes to its farewell. -/
theorem completed_of_abandoned {granted : Prop} {farewell : Except Fault Unit}
    {first offered heard unsaid : List (Json × Bool)}
    (hfirst : attempts first = [⟨"initialize", none⟩, ⟨"initialized", none⟩])
    (hnamed : ∀ topic ∈ attempts offered, topic.uri ≠ none)
    (hheard : first ++ offered = heard ++ unsaid) (hgranted : ¬ granted)
    (hfarewell : farewell ≠ .ok ()) : Completed true granted farewell heard := by
  have hbefore : ∀ topic ∈ attempts heard, topic ∈ attempts first ∨ topic ∈ attempts offered := by
    intro topic htopic
    have hmem : topic ∈ attempts (heard ++ unsaid) := by
      rw [attempts_append]
      exact List.mem_append_left _ htopic
    rw [← hheard, attempts_append] at hmem
    exact List.mem_append.1 hmem
  have hother : ∀ topic : Topic, topic.uri = none → topic ∉ attempts first →
      topic ∉ attempts heard := by
    intro topic huri hno htopic
    rcases hbefore topic htopic with h | h
    · exact hno h
    · exact hnamed topic h huri
  have hexit : ⟨"exit", none⟩ ∉ attempts heard := hother _ rfl (by rw [hfirst]; decide)
  refine ⟨?_, iff_of_false hexit hgranted, ?_, iff_of_false hfarewell fun h => hgranted h.1⟩
  · exact List.count_eq_zero.2 (hother _ rfl (by rw [hfirst]; decide))
  · rintro before told after rfl
    exact absurd (mem_attempts (List.mem_append_right _ List.mem_cons_self) rfl) hexit

/-- The server grants the handshake. -/
def Introduces (client : Client σ) (root : String) (config : Config) (s : Session σ) : Prop :=
  ∃ uri ∈ Uri.ofFolder? root, s.Granted client.peer client.requestLimit "initialize"
    (Message.introduction client.processId uri ((Path.fileName? root).getD "workspace")
      config.server.initializationOptions)

/-- What becomes of a conversation that begins with `s` and ends with `last`, if `log` is what the
server is offered. -/
structure KeepsCourse (client : Client σ) (root : String) (config : Config)
    (files : List SourceFile) (s last : Session σ) (log : List (Json × Bool)) : Prop where
  /-- What is written, apart from answers, is what the server takes. -/
  written : last.sent.filterMap Json.topic? = taken log
  order : client.KeepsOrder files last.isAbandoned log
  /-- The server hears that the client is ready just if it granted the handshake. -/
  ready : ⟨"initialized", none⟩ ∈ attempts log ↔ client.Introduces root config s
  /-- If the handshake fails, there is nothing else. -/
  refused : ∀ fault after,
    client.handshake root config.server.initializationOptions s = (.error fault, after) →
    attempts log <+: [⟨"initialize", none⟩, ⟨"initialized", none⟩] ∧
      ⟨"initialized", none⟩ ∉ taken log
  completed : ∀ v after,
    client.handshake root config.server.initializationOptions s = (.ok v, after) →
    let scanned := (scan config root client.service files after).state
    Completed last.isAbandoned
      (scanned.Granted client.peer (some client.shutdownLimit) "shutdown" .null)
      (client.shutdown scanned).1 log

/-- What the server is offered in a whole conversation is the first part of what there is to say:
all of it, unless the client is abandoned. -/
theorem heard_of_wrote {s after : Session (Logged σ)} {said : List (Json × Bool)}
    (h : Wrote dead s after said) (hlog : s.peer.log = []) (hfresh : s.sent = []) :
    ∃ unsaid, said = after.peer.log ++ unsaid ∧
      (after.isAbandoned = false → said = after.peer.log) ∧
      after.sent.filterMap Json.topic? = taken after.peer.log := by
  obtain ⟨heard, hheard, ⟨unsaid, hsplit, hunsaid⟩, hall, -⟩ := h.heard
  rw [hlog, List.nil_append] at hheard
  obtain rfl := hheard
  have hsent := h.sent
  rw [hfresh, List.nil_append] at hsent
  refine ⟨unsaid, hsplit, fun hopen => ?_, ?_⟩
  · exact (hall.resolve_right fun habandoned => nomatch hopen.symm.trans habandoned).symm
  · rw [hsent, filterMap_taken, hsplit, taken_append, taken_of_none hunsaid, List.append_nil]

/-- In a session that a scan abandons the server is offered the handshake and a part of the scan. -/
theorem heard_of_abandoned {s t ended last : Session (Logged σ)}
    {first offered said : List (Json × Bool)} (hwrote : Wrote dead s t first)
    (hscanned : Wrote dead t ended offered) (hended : Wrote dead ended last said)
    (hlog : s.peer.log = []) (hopened : t.closing = none) (habandoned : ended.isAbandoned = true) :
    (∃ unheard, first ++ offered = last.peer.log ++ unheard) ∧
      ∃ more, last.peer.log = first ++ more := by
  obtain ⟨begun, hbegun, -, hall, -⟩ := hwrote.heard
  obtain rfl : begun = first := hall.resolve_right fun h => by
    rw [isAbandoned_of_patient hopened] at h
    cases h
  obtain ⟨more, hmore, ⟨unheard, hunheard, -⟩, -⟩ := hscanned.heard
  obtain ⟨later, hlater, -, -, hnone⟩ := hended.heard
  -- an abandoned session offers nothing any more
  have hlast : last.peer.log = begun ++ more := by
    rw [hlater, hnone habandoned, hmore, hbegun, hlog, List.append_nil, List.nil_append]
  exact ⟨⟨unheard, by rw [hlast, hunheard, List.append_assoc]⟩, more, hlast⟩

section Conversation

variable {s : Session σ} {t : Session (Logged σ)} {config : Config} {root : String}
  (hfails : client.peer.FailsForGood dead) (hfresh : s.sent = []) (hpatient : s.closing = none)

include hfails hfresh hpatient

/-- A handshake that fails is all that is said. -/
theorem course_of_refusal (files : List SourceFile) {fault : Fault}
    (hlogged : client.logged.handshake root config.server.initializationOptions s.logged =
      (.error fault, t)) : client.KeepsCourse root config files s t.unlogged t.peer.log := by
  have hpatient' : s.logged.closing = none := hpatient
  have hintroduced := client.handshake_unlogged root config.server.initializationOptions s.logged
  obtain ⟨first, hwrote, hinitialized, hresult⟩ :=
    handshake_wrote hfails (.inl hpatient') root config.server.initializationOptions
  rw [hlogged] at hwrote hresult hintroduced
  obtain ⟨unsaid, hsplit, hall, htaken⟩ := heard_of_wrote hwrote rfl hfresh
  have hattempts : attempts t.peer.log <+: attempts first := by
    rw [hsplit, attempts_append]
    exact List.prefix_append _ _
  have htold : taken t.peer.log ⊆ taken first := by
    rw [hsplit, taken_append]
    exact List.subset_append_left _ _
  have horder : client.KeepsOrder files false first :=
    keepsOrder_of_isPrefix hresult.1 hwrote.lasting
  refine ⟨htaken, ?_, ?_, fun _ _ _ => ?_, ?_⟩
  · show client.KeepsOrder files t.isAbandoned t.peer.log
    cases habandoned : t.isAbandoned with
    | false => rwa [← hall habandoned]
    | true =>
      rw [hsplit] at horder
      exact horder.of_append
  · rcases client.handshake_closing root config.server.initializationOptions s with
      hsame | ⟨-, hrefused⟩
    · have hclosing : t.closing = none := by
        rw [← hpatient, ← hsame, show client.handshake root _ s = _ from hintroduced]
        rfl
      rw [← hall (isAbandoned_of_patient hclosing)]
      exact hinitialized
    -- the request of the handshake is not settled, and so the server does not hear more
    · exact iff_of_false (fun hmem => hrefused (hinitialized.1 (hattempts.subset hmem))) hrefused
  · exact ⟨hattempts.trans hresult.1, fun hmem => hresult.2 (htold hmem)⟩
  · intro v after hok
    cases hok.symm.trans hintroduced

/-- After a handshake that succeeds comes the scan, and after that the farewell, unless the scan
abandons the session. -/
theorem course_of_introduction (files : List SourceFile) {v : Json}
    (hlogged : client.logged.handshake root config.server.initializationOptions s.logged =
      (.ok v, t)) :
    let ended := (scan config root client.logged.service files t).state
    let last := (client.logged.shutdown ended).2
    client.KeepsCourse root config files s last.unlogged last.peer.log := by
  intro ended last
  have hpatient' : s.logged.closing = none := hpatient
  have hopened : t.closing = none := client.logged.handshake_patient hlogged hpatient'
  have hintroduced := client.handshake_unlogged root config.server.initializationOptions s.logged
  obtain ⟨first, hwrote, hinitialized, hresult⟩ :=
    handshake_wrote hfails (.inl hpatient') root config.server.initializationOptions
  rw [hlogged] at hwrote hresult hintroduced
  have hfirst : attempts first = [⟨"initialize", none⟩, ⟨"initialized", none⟩] := by
    rw [attempts, show offers first = _ from hresult]
    rfl
  have hready : ⟨"initialized", none⟩ ∈ attempts first := by rw [hfirst]; decide
  -- the scan goes on where the handshake ends, and the farewell where the scan does
  obtain ⟨offered, counts, hscanned, hbrackets, hlength, hoffered⟩ :=
    scan_fulfils hfails (.inl hopened) config root files
  have hsteady := hscanned.steady (.inl hopened)
  obtain ⟨asked, rest, hended, hasked, hrest⟩ := shutdown_wrote hfails hsteady
  have hnamed : ∀ topic ∈ attempts offered, topic.uri ≠ none :=
    fun topic h => Topic.uri_ne_none_of_mem_blocks (hoffered.order.subset h)
  have hwhole := hwrote.trans (hscanned.trans hended)
  have horder : client.KeepsOrder files false (first ++ (offered ++ (asked ++ rest))) :=
    keepsOrder_of_parts hfirst hlength hbrackets hoffered (hrest.attempts_isPrefix hasked)
      hwhole.lasting
  obtain ⟨unsaid, hsplit, hall, htaken⟩ := heard_of_wrote hwhole rfl hfresh
  have hparts : client.KeepsOrder files last.isAbandoned last.peer.log ∧
      (∃ more, last.peer.log = first ++ more) ∧
      Completed last.isAbandoned
        (ended.unlogged.Granted client.peer (some client.shutdownLimit) "shutdown" .null)
        (client.logged.shutdown ended).1 last.peer.log := by
    cases hopen : last.isAbandoned with
    | false =>
      rw [← hall hopen]
      exact ⟨horder, ⟨_, rfl⟩, completed_of_parts hfirst hnamed hasked hrest⟩
    | true =>
      have habandoned : ended.isAbandoned = true := hsteady.resolve_left fun hnone => by
        have hclosing := (client.logged.shutdown_closing ended).trans hnone
        rw [isAbandoned_of_patient hclosing] at hopen
        cases hopen
      obtain ⟨⟨unheard, hheard⟩, hmore⟩ :=
        heard_of_abandoned hwrote hscanned hended rfl hopened habandoned
      obtain ⟨hgranted, hfaults⟩ := client.shutdown_abandoned (s := ended.unlogged) habandoned
      rw [client.shutdown_unlogged ended] at hfaults
      rw [hsplit] at horder
      exact ⟨horder.of_append, hmore,
        completed_of_abandoned hfirst hnamed hheard hgranted hfaults⟩
  obtain ⟨horder', ⟨more, hmore⟩, hcompleted⟩ := hparts
  have hready' : ⟨"initialized", none⟩ ∈ attempts last.peer.log := by
    rw [hmore, attempts_append]
    exact List.mem_append_left _ hready
  refine ⟨htaken, horder', iff_of_true hready' (hinitialized.1 hready), ?_, ?_⟩
  · intro fault after herror
    cases herror.symm.trans hintroduced
  · intro v' after hok
    cases hok.symm.trans hintroduced
    have hstate : (scan config root client.service files t.unlogged).state = ended.unlogged :=
      (scan_maps config client.maps_unlogged root files t).2.2
    rw [hstate]
    dsimp only
    rw [client.shutdown_unlogged ended]
    exact hcompleted

/-- **The course of a conversation.** Let a server answer what it likes when it likes, and stop to
take messages at any time, for good. What it takes, apart from answers, is the first part of: the
handshake, for each file that can be loaded a block about one document, and the farewell; the rest
of what it is offered comes in the same order, and only an open document is ever named. It hears
that the client is ready only if it granted the handshake, and if the handshake fails it hears of
nothing else. Otherwise it is asked to shut down once, whatever became of the files, but for a
client that is abandoned; it is told to exit just if it granted that, and it is told nothing
afterwards. The farewell succeeds just if the server granted it and took the last message. -/
theorem survey_course (root : String) (config : Config) (files : List SourceFile) :
    client.KeepsCourse root config files s (client.survey root config files s).2
      (client.logged.survey root config files s.logged).2.peer.log := by
  have hlast : (client.survey root config files s).2 =
      (client.logged.survey root config files s.logged).2.unlogged :=
    congrArg Prod.snd (client.survey_unlogged root config files s.logged)
  rw [hlast]
  rcases hlogged : client.logged.handshake root config.server.initializationOptions s.logged with
    ⟨fault | v, t⟩
  all_goals simp only [survey, hlogged, andThen]
  · exact course_of_refusal hfails hfresh hpatient files hlogged
  · exact course_of_introduction hfails hfresh hpatient files hlogged

end Conversation

/-- A server that takes three messages grants the farewell, and the last message cannot be written
any more: so it is not written whenever the server granted the farewell. A server that falls silent
leaves a client without a limit waiting for the answer about a file: so after a handshake that
succeeds it is not always asked to shut down. -/
theorem farewell_cut_short :
    let s := Stream.session (CommandLine.answers 2) .silent (some 3)
    let introduced := hastyClient.handshake "/p" none s
    let scanned := (scan {} "/p" hastyClient.service [] introduced.2).state
    let patient : Client Stream := { hastyClient with files := Sample.files, requestLimit := none }
    let quiet := Stream.session (CommandLine.answers 1) .silent none
    ¬ (⟨"exit", none⟩ ∈ (hastyClient.survey "/p" {} [] s).2.sent.filterMap Json.topic? ↔
      scanned.Granted hastyClient.peer (some hastyClient.shutdownLimit) "shutdown" .null) ∧
    ¬ ((patient.handshake "/" none quiet).1.isOk = true →
      (attempts (patient.logged.survey "/" {} [⟨"/a.dart", "/"⟩] quiet.logged).2.peer.log).count
        ⟨"shutdown", none⟩ = 1) := by
  intro s introduced scanned patient quiet
  refine ⟨fun hiff => ?_, by decide +kernel⟩
  have hok : (scanned.requestWithin hastyClient.peer (some hastyClient.shutdownLimit) "shutdown"
      .null).1.isOk = true := by decide +kernel
  have hunwritten : ⟨"exit", none⟩ ∉
      (hastyClient.survey "/p" {} [] s).2.sent.filterMap Json.topic? := by decide +kernel
  refine hunwritten (hiff.2 ((requestWithin_ok_iff _ _ _ _ _).1 ?_))
  cases hresult : (scanned.requestWithin hastyClient.peer (some hastyClient.shutdownLimit)
    "shutdown" .null).1 with
  | error fault =>
    rw [hresult] at hok
    cases hok
  | ok v => exact ⟨v, rfl⟩

end Client

/-! ## Runs of the program -/

namespace CommandLine

open Client

variable {σ : Type} {picker : Picker} {options : Options} {launcher : Launcher σ} {dead : σ → Prop}

/-- Nothing was said before to the servers of a launcher, and nobody gives up on them. -/
def StartsFresh (launcher : Launcher σ) : Prop :=
  ∀ command root s, launcher.start command root = .ok s → s.sent = [] ∧ s.closing = none

section Carried

variable {processId : Nat} {quiet : Bool} {plan : Plan} {tree left : FileTree} {run : Run σ}

/-- A run that carries out a plan has no conversation only if the server does not start. -/
theorem Carried.session_none (h : Carried launcher processId quiet plan tree (run, left))
    (hsession : run.session = none) (client : Client σ) (s : Session σ) :
    Client.start launcher tree processId plan.config.server plan.root ≠ .ok (client, s) := by
  intro hstart
  cases h with
  | unstarted hrefused => cases hrefused.symm.trans hstart
  | _ => cases hsession

/-- It has one conversation with the server that it starts, and waits for ever just if that does. -/
theorem Carried.session_some (h : Carried launcher processId quiet plan tree (run, left))
    {last : Session σ} (hsession : run.session = some last) :
    ∃ client s, Client.start launcher tree processId plan.config.server plan.root =
      .ok (client, s) ∧ last = (client.survey plan.root plan.config plan.files s).2 ∧
        (run.conclusion = .abandoned ↔ last.isAbandoned = true) := by
  cases h with
  | unstarted => cases hsession
  | abandoned hstart hsurvey hlast =>
    obtain rfl := Option.some.inj hsession
    exact ⟨_, _, hstart, by rw [hsurvey], iff_of_true rfl hlast⟩
  | refused hstart hsurvey hlast | reported hstart hsurvey hlast =>
    obtain rfl := Option.some.inj hsession
    refine ⟨_, _, hstart, by rw [hsurvey], iff_of_false nofun ?_⟩
    rw [hlast]
    exact Bool.false_ne_true

end Carried

/-- **Every run of the program keeps the course of its conversation**, if it starts a server at all.
It waits for ever just if that conversation is abandoned, in a request without a limit that nothing
is left to settle. -/
theorem Run.session_course {words : List String} (h : Order.ofWords words = .ok (.scan options))
    (hfails : launcher.peer.FailsForGood dead) (hfresh : StartsFresh launcher) (picker : Picker)
    (tree : FileTree) (processId : Nat) :
    let run := Run.ofWordsAt picker launcher tree processId words
    (run.session = none → ∀ plan client s, IsEstablished picker tree options plan →
      Client.start launcher tree processId plan.config.server plan.root ≠ .ok (client, s)) ∧
    ∀ last, run.session = some last → ∃ plan client s, IsEstablished picker tree options plan ∧
      Client.start launcher tree processId plan.config.server plan.root = .ok (client, s) ∧
      client.KeepsCourse plan.root plan.config plan.files s last
        (client.logged.survey plan.root plan.config plan.files s.logged).2.peer.log ∧
      (run.conclusion = .abandoned ↔ last.isAbandoned = true) ∧
      (last.isAbandoned = true → last.IsLost client.requestLimit) := by
  obtain ⟨⟨result, notices⟩, hplanned, hresult⟩ := Plan.ofOptions_planned picker options tree
  cases result with
  | error stop =>
    rw [ofWordsAt_scan h (ofOptions_of_stop hplanned launcher processId)]
    refine ⟨fun _ plan client s hplan => ?_, fun last hlast => nomatch hlast⟩
    cases hresult.ok_iff.2 hplan
  | ok plan =>
    have hplan := hresult.isEstablished
    have hcarried := Run.ofPlan_carried launcher processId options.quiet plan tree
    rcases hrun : (Run.ofPlan launcher processId options.quiet plan).run tree with ⟨run, left⟩
    rw [hrun] at hcarried
    rw [ofWordsAt_scan h (ofOptions_of_plan hplanned launcher processId hrun)]
    refine ⟨fun hnone other client s hother => ?_, fun last hlast => ?_⟩
    · rw [hplan.unique hother]
      exact hcarried.session_none hnone client s
    · obtain ⟨client, s, hstart, rfl, habandoned⟩ := hcarried.session_some hlast
      obtain ⟨hlaunched, hpeer, -⟩ := Client.start_ok hstart
      obtain ⟨hsent, hpatient⟩ := hfresh _ _ _ hlaunched
      refine ⟨plan, client, s, hplan, hstart, ?_, habandoned, ?_⟩
      · exact survey_course (hpeer ▸ hfails) hsent hpatient plan.root plan.config plan.files
      · intro hlost
        have hends := client.survey_lost plan.root plan.config plan.files hpatient
        refine hends.resolve_left fun hnone => ?_
        rw [Session.isAbandoned_of_patient hnone] at hlost
        cases hlost

/-- A server that answers the three requests of a run hears all there is to say. One that answers
the first of them only leaves the client waiting for ever. -/
theorem Run.session_course_project :
    let whole := Run.ofWords (answering 3 .silent) projectTree 1 ["/"]
    let lost := Run.ofWords (answering 1 .silent) projectTree 1 ["/"]
    (∀ n ending, (answering n ending).peer.FailsForGood (fun stream => stream.room = some 0) ∧
      StartsFresh (answering n ending)) ∧
    (∃ last uris counts, whole.session = some last ∧ whole.conclusion ≠ .abandoned ∧
      last.sent.filterMap Json.topic? <+: Topic.script uris counts ∧
      last.sent.filterMap Json.topic? = Topic.script ["file:///a.dart"] [0]) ∧
    ∃ last limit uris counts, lost.session = some last ∧ lost.conclusion = .abandoned ∧
      last.IsLost limit ∧ last.sent.filterMap Json.topic? <+: Topic.script uris counts ∧
      last.sent.filterMap Json.topic? = [⟨"initialize", none⟩, ⟨"initialized", none⟩,
        .opening "file:///a.dart", .outline "file:///a.dart"] := by
  intro whole lost
  have hwords : Order.ofWords ["/"] = .ok (.scan { folders := ["/"] }) := by rfl
  have hlaunched : ∀ n ending,
      (answering n ending).peer.FailsForGood (fun stream => stream.room = some 0) ∧
        StartsFresh (answering n ending) := by
    refine fun n ending => ⟨Stream.failsForGood_peer, ?_⟩
    rintro command root s hstart
    obtain rfl := Except.ok.inj hstart
    exact ⟨rfl, rfl⟩
  have hwhole : (whole.session.map fun s => (s.isAbandoned, s.sent.filterMap Json.topic?)) =
      some (false, Topic.script ["file:///a.dart"] [0]) := by decide +kernel
  have hlost : (lost.session.map fun s => (s.isAbandoned, s.sent.filterMap Json.topic?)) =
      some (true, [⟨"initialize", none⟩, ⟨"initialized", none⟩, .opening "file:///a.dart",
        .outline "file:///a.dart"]) := by decide +kernel
  obtain ⟨last, hlast, hlast'⟩ := Option.map_eq_some_iff.1 hwhole
  obtain ⟨final, hfinal, hfinal'⟩ := Option.map_eq_some_iff.1 hlost
  obtain ⟨hopen, hall⟩ := Prod.mk.inj hlast'
  obtain ⟨habandoned, hfirst⟩ := Prod.mk.inj hfinal'
  refine ⟨hlaunched, ?_, ?_⟩
  · obtain ⟨-, hcourse⟩ := Run.session_course hwords (hlaunched 3 .silent).1
      (hlaunched 3 .silent).2 .nobody projectTree 1
    obtain ⟨plan, client, s, -, -, hkeeps, hends, -⟩ := hcourse last hlast
    obtain ⟨counts, -, hfollows⟩ := hkeeps.order.course
    have hcomes : whole.conclusion ≠ .abandoned :=
      fun hwaits => nomatch hopen.symm.trans (hends.1 hwaits)
    exact ⟨last, _, counts, hlast, hcomes, hkeeps.written ▸ hfollows.taken, hall⟩
  · obtain ⟨-, hcourse⟩ := Run.session_course hwords (hlaunched 1 .silent).1
      (hlaunched 1 .silent).2 .nobody projectTree 1
    obtain ⟨plan, client, s, -, -, hkeeps, hends, hlost⟩ := hcourse final hfinal
    obtain ⟨counts, -, hfollows⟩ := hkeeps.order.course
    exact ⟨final, _, _, counts, hfinal, hends.2 habandoned, hlost habandoned,
      hkeeps.written ▸ hfollows.taken, hfirst⟩

end CommandLine

end DeadSymbols
