import DeadSymbols.Proofs.Bracketing
import DeadSymbols.Proofs.Log
import DeadSymbols.Proofs.Refinement
import DeadSymbols.Proofs.Routing

/-!
# The parts of a conversation

What a client offers to a server in the handshake, about the files and in the farewell, whatever the
server answers, however long it takes and whenever it stops to take messages.

* `Topic`: what a message is about. `Topic.block` is what is said about one file.
* `Topic.next`: the document that is open after a message.
* `Fulfils`: messages that keep to a script until one is refused.
* `Client.handshake_wrote`, `Client.shutdown_wrote`: the first and the last exchange.
* `Client.scan_fulfils`: what a scan offers.
-/

namespace DeadSymbols

/-- What a message is about: its method, and the document that it names if it names one. -/
structure Topic where
  method : String
  uri : Option String := none
deriving DecidableEq, Repr

/-- What a message is about. An answer is about nothing. -/
def Json.topic? (message : Json) : Option Topic :=
  ((message.get? "method").bind asText?).map fun method =>
    let document := (message.get? "params").bind (·.get? "textDocument")
    ⟨method, (document.bind (·.get? "uri")).bind asText?⟩

namespace Topic

def opening (uri : String) : Topic := ⟨"textDocument/didOpen", some uri⟩

def outline (uri : String) : Topic := ⟨"textDocument/documentSymbol", some uri⟩

def references (uri : String) : Topic := ⟨"textDocument/references", some uri⟩

def closing (uri : String) : Topic := ⟨"textDocument/didClose", some uri⟩

/-- What is said about a document with `n` symbols to ask about. -/
def block (uri : String) (n : Nat) : List Topic :=
  opening uri :: outline uri :: (List.replicate n (references uri) ++ [closing uri])

/-- What is said about some documents. -/
def blocks (uris : List String) (counts : List Nat) : List Topic :=
  (uris.zip counts).flatMap fun p => block p.1 p.2

/-- What is said about documents names one. -/
theorem uri_ne_none_of_mem_blocks {uris : List String} {counts : List Nat} {topic : Topic}
    (h : topic ∈ blocks uris counts) : topic.uri ≠ none := by
  obtain ⟨p, -, hblock⟩ := List.mem_flatMap.1 h
  simp only [block, List.mem_cons, List.mem_append, List.mem_replicate, List.not_mem_nil,
    or_false] at hblock
  rcases hblock with rfl | rfl | ⟨-, rfl⟩ | rfl <;> exact Option.some_ne_none _

/-- The document that is open after a message was offered, if the message may be offered when
`current` is open. A document is opened when none is open, if the server takes the message, and only
the open document may be named. -/
def next (current : Option String) (offer : Topic × Bool) : Option (Option String) :=
  if offer.1.method = "textDocument/didOpen" then
    if current = none then some (if offer.2 then offer.1.uri else none) else none
  else if offer.1.uri = none then some current
  else if offer.1.uri = current then
    some (if offer.1.method = "textDocument/didClose" then none else current)
  else none

end Topic

/-! ## Offers -/

/-- What is offered to a server, apart from answers, and whether the server takes it. -/
def offers (offered : List (Json × Bool)) : List (Topic × Bool) :=
  offered.filterMap fun o => o.1.topic?.map (·, o.2)

/-- What the offers are about. -/
def attempts (offered : List (Json × Bool)) : List Topic := (offers offered).map Prod.fst

/-- What those offers are about that are taken. -/
def taken (offered : List (Json × Bool)) : List Topic :=
  ((offers offered).filter Prod.snd).map Prod.fst

section Offers

variable {xs ys offered : List (Json × Bool)}

theorem offers_append : offers (xs ++ ys) = offers xs ++ offers ys := List.filterMap_append

theorem attempts_append : attempts (xs ++ ys) = attempts xs ++ attempts ys := by
  rw [attempts, offers_append, List.map_append]; rfl

theorem taken_append : taken (xs ++ ys) = taken xs ++ taken ys := by
  rw [taken, offers_append, List.filter_append, List.map_append]; rfl

/-- Answers are about nothing. -/
theorem offers_replies (h : AreReplies (offered.map Prod.fst)) : offers offered = [] := by
  refine List.filterMap_eq_nil_iff.2 fun o ho => ?_
  obtain ⟨theirs, result, hanswer⟩ := h o.1 (List.mem_map_of_mem ho)
  rw [hanswer]
  rfl

theorem offers_cons {message : Json} {topic : Topic} (h : message.topic? = some topic) (told : Bool)
    (rest : List (Json × Bool)) : offers ((message, told) :: rest) = (topic, told) :: offers rest := by
  simp only [offers, List.filterMap_cons, h, Option.map_some]

/-- What was written is what was taken. -/
theorem filterMap_taken (offered : List (Json × Bool)) :
    ((offered.filter Prod.snd).map Prod.fst).filterMap Json.topic? = taken offered := by
  induction offered with
  | nil => rfl
  | cons o rest ih =>
    obtain ⟨message, told⟩ := o
    rw [taken] at ih ⊢
    cases ht : message.topic? with
    | none =>
      have hrest : offers ((message, told) :: rest) = offers rest := by
        simp only [offers, List.filterMap_cons, ht, Option.map_none]
      rw [hrest, ← ih]
      cases told <;> simp [ht]
    | some topic =>
      rw [offers_cons ht]
      cases told <;> simp [ht, ← ih]

theorem mem_offers {offer : Topic × Bool} (h : offer ∈ offers offered) :
    ∃ o ∈ offered, o.1.topic? = some offer.1 ∧ o.2 = offer.2 := by
  obtain ⟨o, ho, heq⟩ := List.mem_filterMap.1 h
  obtain ⟨topic, htopic, rfl⟩ := Option.map_eq_some_iff.1 heq
  exact ⟨o, ho, htopic, rfl⟩

theorem mem_attempts {message : Json} {told : Bool} {topic : Topic}
    (h : (message, told) ∈ offered) (htopic : message.topic? = some topic) :
    topic ∈ attempts offered := by
  refine List.mem_map.2 ⟨(topic, told), List.mem_filterMap.2 ⟨_, h, ?_⟩, rfl⟩
  rw [htopic]
  rfl

theorem taken_subset (offered : List (Json × Bool)) : taken offered ⊆ attempts offered :=
  (List.filter_sublist.map Prod.fst).subset

/-- If nothing is refused, all is taken. -/
theorem taken_of_all (h : ∀ o ∈ offered, o.2 = true) : taken offered = attempts offered := by
  rw [taken, List.filter_eq_self.2, attempts]
  intro offer hoffer
  obtain ⟨o, ho, -, hsame⟩ := mem_offers hoffer
  rw [← hsame, h o ho]

theorem taken_of_none (h : ∀ o ∈ offered, o.2 = false) : taken offered = [] := by
  rw [taken, List.filter_eq_nil_iff.2, List.map_nil]
  intro offer hoffer
  obtain ⟨o, ho, -, hsame⟩ := mem_offers hoffer
  rw [← hsame, h o ho]
  exact Bool.false_ne_true

/-- All that is offered is taken, or nothing after it is. -/
theorem Lasting.split (h : Lasting (xs ++ ys)) :
    (∀ o ∈ xs, o.2 = true) ∨ ∀ o ∈ ys, o.2 = false := by
  obtain ⟨-, -, hbetween⟩ := List.pairwise_append.1 h
  by_cases hall : ∀ o ∈ xs, o.2 = true
  · exact .inl hall
  · right
    intro o' ho'
    rw [← Bool.not_eq_true]
    intro htaken
    exact hall fun o ho => hbetween o ho o' ho' htaken

/-- What is taken is the first part of what is offered. -/
theorem Lasting.taken_prefix (h : Lasting offered) : taken offered <+: attempts offered := by
  induction offered with
  | nil => exact List.nil_prefix
  | cons o rest ih =>
    have hsplit : Lasting ([o] ++ rest) := h
    have hcons : o :: rest = [o] ++ rest := rfl
    rw [hcons, taken_append, attempts_append]
    rcases hsplit.split with hall | hnone
    · rw [taken_of_all hall]
      exact (List.prefix_append_right_inj _).2 (ih (List.pairwise_cons.1 h).2)
    · rw [taken_of_none hnone, List.append_nil]
      refine List.IsPrefix.trans ?_ (List.prefix_append _ _)
      cases htold : o.2 with
      | true =>
        have htaken : taken [o] = attempts [o] := taken_of_all (by simpa using htold)
        exact ⟨[], by rw [htaken, List.append_nil]⟩
      | false =>
        rw [taken_of_none (by simpa using htold)]
        exact List.nil_prefix

end Offers

/-! ## Scripts -/

/-- Messages keep to a script: those that are taken are the first ones of the script, and the others
come in its order, too. -/
structure Follows (script : List Topic) (offered : List (Json × Bool)) : Prop where
  taken : taken offered <+: script
  order : (attempts offered).Sublist script

/-- If none of the messages is refused, they make up the whole script. -/
structure Fulfils (script : List Topic) (offered : List (Json × Bool)) : Prop
    extends Follows script offered where
  whole : (∀ o ∈ offered, o.2 = true) → attempts offered = script

section Scripts

variable {script script' : List Topic} {xs ys offered : List (Json × Bool)}

/-- One script after another: the second one begins only when the first one is fulfilled. -/
theorem Fulfils.follows (h : Fulfils script xs) (h' : Follows script' ys)
    (hlasting : Lasting (xs ++ ys)) : Follows (script ++ script') (xs ++ ys) where
  taken := by
    rw [taken_append]
    rcases hlasting.split with hall | hnone
    · rw [taken_of_all hall, h.whole hall]
      exact (List.prefix_append_right_inj _).2 h'.taken
    · rw [taken_of_none hnone, List.append_nil]
      exact h.taken.trans (List.prefix_append _ _)
  order := by
    rw [attempts_append]
    exact h.order.append h'.order

theorem Fulfils.append (h : Fulfils script xs) (h' : Fulfils script' ys)
    (hlasting : Lasting (xs ++ ys)) : Fulfils (script ++ script') (xs ++ ys) where
  toFollows := h.follows h'.toFollows hlasting
  whole := by
    intro hall
    rw [attempts_append, h.whole fun o ho => hall o (List.mem_append_left _ ho),
      h'.whole fun o ho => hall o (List.mem_append_right _ ho)]

/-- All messages of a script were offered, and some of them may have been refused. -/
theorem Fulfils.of_attempts (h : attempts offered = script) (hlasting : Lasting offered) :
    Fulfils script offered where
  taken := h ▸ hlasting.taken_prefix
  order := h ▸ List.Sublist.refl _
  whole := fun _ => h

/-- The first messages of a script were offered, and some of them may have been refused. -/
theorem Follows.of_isPrefix (h : attempts offered <+: script) (hlasting : Lasting offered) :
    Follows script offered :=
  ⟨hlasting.taken_prefix.trans h, h.sublist⟩

/-- Nothing is open before the messages, and nothing after them. -/
def Brackets (offered : List (Json × Bool)) : Prop :=
  (offers offered).foldlM Topic.next none = some none

theorem Brackets.append (h : Brackets xs) (h' : Brackets ys) : Brackets (xs ++ ys) := by
  rw [Brackets, offers_append, List.foldlM_append, show List.foldlM _ _ _ = _ from h]
  exact h'

/-- Messages that name no document leave all as it is. -/
theorem brackets_of_unnamed (h : ∀ topic ∈ attempts offered, topic.uri = none ∧
    topic.method ≠ "textDocument/didOpen") : Brackets offered := by
  rw [attempts] at h
  unfold Brackets
  generalize offers offered = all at h ⊢
  induction all with
  | nil => rfl
  | cons offer rest ih =>
    rw [List.map_cons, List.forall_mem_cons] at h
    have hnext : Topic.next none offer = some none := by
      rw [Topic.next, if_neg h.1.2, if_pos h.1.1]
    rw [List.foldlM_cons, hnext]
    exact ih h.2

theorem Topic.next_opening (uri : String) (told : Bool) :
    Topic.next none (.opening uri, told) = some (if told then some uri else none) := rfl

theorem Topic.next_outline (uri : String) (told : Bool) :
    Topic.next (some uri) (.outline uri, told) = some (some uri) := by
  simp [Topic.next, Topic.outline]

theorem Topic.next_references (uri : String) (told : Bool) :
    Topic.next (some uri) (.references uri, told) = some (some uri) := by
  simp [Topic.next, Topic.references]

theorem Topic.next_closing (uri : String) (told : Bool) :
    Topic.next (some uri) (.closing uri, told) = some none := by
  simp [Topic.next, Topic.closing]

theorem Topic.foldlM_next_references (uri : String) (queried : List Bool) :
    (queried.map (references uri, ·)).foldlM next (some uri) = some (some uri) := by
  induction queried with
  | nil => rfl
  | cons told rest ih =>
    rw [List.map_cons, List.foldlM_cons, next_references]
    exact ih

/-- What is offered about a document that was opened: all that there is to say about it, of which
the server may refuse some. -/
def IsAbout (uri : String) (n : Nat) (offered : List (Json × Bool)) : Prop :=
  ∃ (listed closed : Bool) (queried : List Bool), queried.length = n ∧
    offers offered = (Topic.opening uri, true) :: (Topic.outline uri, listed) ::
      (queried.map (Topic.references uri, ·) ++ [(Topic.closing uri, closed)])

theorem IsAbout.attempts {uri : String} {n : Nat} (h : IsAbout uri n offered) :
    attempts offered = Topic.block uri n := by
  obtain ⟨listed, closed, queried, rfl, hoffers⟩ := h
  rw [DeadSymbols.attempts, hoffers, Topic.block]
  simp [Function.comp_def, List.map_const']

/-- A document that is opened is closed in the end. -/
theorem IsAbout.brackets {uri : String} {n : Nat} (h : IsAbout uri n offered) :
    Brackets offered := by
  obtain ⟨listed, closed, queried, -, hoffers⟩ := h
  rw [Brackets, hoffers, List.foldlM_cons, Topic.next_opening]
  simp [Topic.next_outline, Topic.next_closing, Topic.foldlM_next_references]

end Scripts

/-! ## Calls -/

namespace Client

open Session

variable {σ : Type} (client : Client σ) {dead : σ → Prop}

/-- The document that stands for a file that can be loaded. -/
def uriOf? (path : String) : Option String :=
  match Document.ofPath path, client.files.readText path with
  | .ok document, .ok _ => some document.uri
  | _, _ => none

/-- The documents that stand for those of some files that can be loaded. -/
def loadable (files : List SourceFile) : List String :=
  files.filterMap fun file => client.uriOf? file.path

variable {client} (hfails : client.peer.FailsForGood dead) {s : Session (Logged σ)}

include hfails

/-- A notification is the only message of a call. -/
theorem notify_wrote (method : String) (params : Json) (s : Session (Logged σ)) :
    ∃ told, Wrote dead s (client.logged.notify method params s).2
        [(Message.notification method params, told)] ∧
      ((client.logged.notify method params s).1 = .ok () ∧ told = true ∨
        (∃ fault, (client.logged.notify method params s).1 = .error fault) ∧ told = false) := by
  obtain ⟨told, hwrote, hresult⟩ :=
    send_wrote hfails (Message.notification method params) s
  exact ⟨told, hwrote, hresult.imp_left fun ⟨hok, htold, _⟩ => ⟨hok, htold⟩⟩

variable (hsteady : s.IsSteady)

include hsteady

/-- A request may be followed by answers to the server. -/
theorem request_wrote (limit : Option Nat) (method : String) (params : Json) {topic : Topic}
    (htopic : ∀ id, (Message.request id method params).topic? = some topic) :
    ∃ told offered, Wrote dead s (s.requestWithin client.logged.peer limit method params).2 offered ∧
      offers offered = [(topic, told)] ∧
      (told = false → ∃ fault,
        (s.requestWithin client.logged.peer limit method params).1 = .error fault) := by
  obtain ⟨told, replies, hwrote, hreplies, hrefused⟩ :=
    requestWithin_wrote hfails limit method params hsteady
  refine ⟨told, _, hwrote, ?_, hrefused⟩
  rw [offers_cons (htopic s.nextId), offers_replies hreplies]

theorem documentSymbols_wrote (document : Document) :
    ∃ told offered, Wrote dead s (client.logged.documentSymbols document s).2 offered ∧
      offers offered = [(Topic.outline document.uri, told)] := by
  have htopic : ∀ id, (Message.request id "textDocument/documentSymbol"
      (.object [Message.textDocument document.uri])).topic? = some (.outline document.uri) :=
    fun id => rfl
  obtain ⟨told, offered, hwrote, hoffers, -⟩ :=
    request_wrote hfails hsteady client.requestLimit _ _ htopic
  refine ⟨told, offered, ?_, hoffers⟩
  rw [documentSymbols, andThen_state]
  exact hwrote

theorem references_wrote (document : Document) (place : Position) :
    ∃ told offered, Wrote dead s (client.logged.references document place s).2 offered ∧
      offers offered = [(Topic.references document.uri, told)] := by
  have htopic : ∀ id, (Message.request id "textDocument/references" (.object [
      ("context", .object [("includeDeclaration", .bool true)]),
      ("position", Message.position place), Message.textDocument document.uri])).topic? =
        some (.references document.uri) := fun id => rfl
  obtain ⟨told, offered, hwrote, hoffers, -⟩ :=
    request_wrote hfails hsteady client.requestLimit _ _ htopic
  refine ⟨told, offered, ?_, hoffers⟩
  rw [references, andThen_state, locations, andThen_state]
  exact hwrote

omit hsteady in
theorem closeDocument_wrote (document : Document) :
    ∃ told offered, Wrote dead s (client.logged.closeDocument document s).2 offered ∧
      offers offered = [(Topic.closing document.uri, told)] := by
  obtain ⟨told, hwrote, -⟩ := notify_wrote hfails "textDocument/didClose"
    (.object [Message.textDocument document.uri]) s
  exact ⟨told, _, hwrote, rfl⟩

omit hsteady in
/-- There is nothing to say about a file that cannot be loaded. A file that can be loaded is opened
just if the server takes the message. -/
theorem openDocument_wrote (path : String) :
    ∃ offered, Wrote dead s (client.logged.openDocument path s).2 offered ∧
      match client.uriOf? path with
      | none => offers offered = [] ∧ ∃ fault, (client.logged.openDocument path s).1 = .error fault
      | some uri => ∃ told, offers offered = [(Topic.opening uri, told)] ∧
        ((∃ document, (client.logged.openDocument path s).1 = .ok document ∧ document.uri = uri ∧
            told = true) ∨
          (∃ fault, (client.logged.openDocument path s).1 = .error fault) ∧ told = false) := by
  have hfiles : client.logged.files = client.files := rfl
  unfold uriOf? openDocument
  rw [hfiles]
  cases Document.ofPath path with
  | error fault => exact ⟨[], .refl s, rfl, fault, rfl⟩
  | ok document =>
    cases htext : client.files.readText path with
    | error cause =>
      cases s.isAbandoned with
      | true => exact ⟨[], .refl s, rfl, _, rfl⟩
      | false => exact ⟨[], .of_eq rfl rfl rfl (Nat.le_refl _), rfl, _, rfl⟩
    | ok text =>
      let message := Message.notification "textDocument/didOpen" (.object [("textDocument", .object [
        ("languageId", .text client.logged.languageId), ("text", .text text),
        ("uri", .text document.uri), ("version", .integer 1)])])
      cases hopen : s.isAbandoned with
      | true =>
        exact ⟨[(message, false)], .unsaid message rfl rfl hopen, false, rfl, .inr ⟨⟨_, rfl⟩, rfl⟩⟩
      | false =>
        -- while the file is read nothing is offered
        obtain ⟨told, hwrote, hresult⟩ := send_wrote hfails message
          ({ s with atHand := max s.atHand (s.clock + 1) } : Session (Logged σ))
        simp only [Bool.false_eq_true, if_false, notify, Session.notify]
        rcases hsend : send client.logged.peer message
          ({ s with atHand := max s.atHand (s.clock + 1) } : Session (Logged σ)) with ⟨result, after⟩
        have hsent : send client.peer.logged message
          ({ s with atHand := max s.atHand (s.clock + 1) } : Session (Logged σ)) = _ := hsend
        rw [hsent] at hwrote hresult
        rw [andThen_pure]
        refine ⟨_, hwrote.of_same rfl rfl rfl rfl, told, rfl, ?_⟩
        rcases hresult with ⟨hok, htold, -⟩ | ⟨⟨fault, herror⟩, htold⟩
        · obtain rfl : result = .ok () := hok
          exact .inl ⟨document, rfl, rfl, htold⟩
        · obtain rfl : result = .error fault := herror
          exact .inr ⟨⟨fault, rfl⟩, htold⟩

/-! ## Scans -/

/-- The queries of a walk. -/
theorem queries_wrote {document : Document} {queries : List Call}
    (hqueries : ∀ call ∈ queries, ∃ place answer, call = .references document place answer) :
    ∃ (offered : List (Json × Bool)) (told : List Bool),
      Wrote dead s (client.logged.service.replay s queries) offered ∧
      told.length = queries.length ∧
      offers offered = told.map (Topic.references document.uri, ·) := by
  induction queries generalizing s with
  | nil => exact ⟨[], [], .refl s, rfl, rfl⟩
  | cons call rest ih =>
    rw [List.forall_mem_cons] at hqueries
    obtain ⟨⟨place, answer, rfl⟩, hrest⟩ := hqueries
    obtain ⟨told, offered, hwrote, hoffers⟩ := references_wrote hfails hsteady document place
    obtain ⟨more, tolds, hmore, hlength, hoffers'⟩ := ih (hwrote.steady hsteady) hrest
    refine ⟨offered ++ more, told :: tolds, hwrote.trans hmore, congrArg (· + 1) hlength, ?_⟩
    rw [offers_append, hoffers, hoffers']
    rfl

/-- The calls of the scan of a file say all that there is to say about it, or nothing if it cannot
be loaded. If the server does not take the first message, it is the only one. -/
theorem fileCalls_wrote {path : String} {calls : List Call} (hcalls : FileCalls path calls)
    (hanswers : client.logged.service.Answers s calls) :
    ∃ offered, Wrote dead s (client.logged.service.replay s calls) offered ∧ Brackets offered ∧
      match client.uriOf? path with
      | none => offers offered = []
      | some uri => ∃ n, Fulfils (Topic.block uri n) offered := by
  obtain ⟨offered, hopened, hresult⟩ := openDocument_wrote hfails (s := s) path
  cases hcalls with
  | failed fault =>
    obtain ⟨hgives, -⟩ := hanswers
    refine ⟨offered, hopened, ?_⟩
    split at hresult
    · obtain ⟨hnone, -⟩ := hresult
      exact ⟨by rw [Brackets, hnone]; rfl, hnone⟩
    · rename_i uri huri
      obtain ⟨told, hoffers, hresult⟩ := hresult
      obtain rfl : told = false := by
        rcases hresult with ⟨document, hok, -⟩ | ⟨-, htold⟩
        · cases hok.symm.trans hgives
        · exact htold
      -- the server did not take the message
      have hattempts : attempts offered = [.opening uri] := by rw [attempts, hoffers]; rfl
      have htaken : taken offered = [] := by rw [taken, hoffers]; rfl
      obtain ⟨o, ho, -, hrefused⟩ : ∃ o ∈ offered, o.1.topic? = some (.opening uri) ∧ o.2 = false :=
        mem_offers (by rw [hoffers]; exact List.mem_cons_self)
      refine ⟨by rw [Brackets, hoffers]; rfl, 0, ⟨⟨?_, ?_⟩, fun hall => ?_⟩⟩
      · rw [htaken]
        exact List.nil_prefix
      · rw [hattempts]
        exact (List.nil_sublist _).cons_cons _
      · rw [hall o ho] at hrefused
        cases hrefused
  | opened document outline queries hqueries closed =>
    obtain ⟨hgives, -⟩ := hanswers
    split at hresult
    · obtain ⟨-, fault, hfault⟩ := hresult
      cases hfault.symm.trans hgives
    · rename_i uri huri
      obtain ⟨told, hoffers, ⟨document', hok, rfl, rfl⟩ | ⟨⟨cause, hfault⟩, -⟩⟩ := hresult
      · obtain rfl : document' = document := Except.ok.inj (hok.symm.trans hgives)
        -- the query for the outline, those for references, and the close
        have hsteady' := hopened.steady hsteady
        obtain ⟨listed, asked, hlisted, hasked⟩ := documentSymbols_wrote hfails hsteady' document'
        obtain ⟨more, told, hqueried, hlength, hmore⟩ :=
          queries_wrote hfails (hlisted.steady hsteady') hqueries
        obtain ⟨closed', last, hclosed, hlast⟩ := closeDocument_wrote hfails document'
        have hwrote := hopened.trans (hlisted.trans (hqueried.trans hclosed))
        have habout : IsAbout document'.uri queries.length (offered ++ (asked ++ (more ++ last))) := by
          refine ⟨listed, closed', told, hlength, ?_⟩
          rw [offers_append, offers_append, offers_append, hoffers, hasked, hmore, hlast]
          rfl
        refine ⟨_, ?_, habout.brackets, _, .of_attempts habout.attempts hwrote.lasting⟩
        show Wrote dead s (client.logged.service.replay
          (client.logged.documentSymbols document' (client.logged.openDocument path s).2).2
          (queries ++ [.closeDocument document' closed])) _
        rw [Service.replay_append]
        exact hwrote
      · cases hfault.symm.trans hgives

/-- The scans of files, one after another. -/
theorem records_wrote {records : List FileRecord}
    (hrecords : ∀ r ∈ records, FileCalls r.file.path r.calls)
    (hanswers : client.logged.service.Answers s (records.flatMap FileRecord.calls)) :
    ∃ offered counts,
      Wrote dead s (client.logged.service.replay s (records.flatMap FileRecord.calls)) offered ∧
      Brackets offered ∧ counts.length = (client.loadable (records.map FileRecord.file)).length ∧
      Fulfils (Topic.blocks (client.loadable (records.map FileRecord.file)) counts) offered := by
  induction records generalizing s with
  | nil => exact ⟨[], [], .refl s, rfl, rfl, .of_attempts rfl .nil⟩
  | cons r rest ih =>
    rw [List.forall_mem_cons] at hrecords
    rw [List.flatMap_cons, Service.answers_append] at hanswers
    rw [List.flatMap_cons, Service.replay_append]
    obtain ⟨offered, hwrote, hbrackets, hfile⟩ :=
      fileCalls_wrote hfails hsteady hrecords.1 hanswers.1
    obtain ⟨more, counts, hmore, hbrackets', hlength, hfulfils⟩ :=
      ih (hwrote.steady hsteady) hrecords.2 hanswers.2
    have hlasting := (hwrote.trans hmore).lasting
    have hloadable : client.loadable ((r :: rest).map FileRecord.file) =
        (client.uriOf? r.file.path).toList ++ client.loadable (rest.map FileRecord.file) := by
      rw [List.map_cons, loadable, List.filterMap_cons]
      cases client.uriOf? r.file.path <;> rfl
    rw [hloadable]
    cases huri : client.uriOf? r.file.path with
    | none =>
      rw [huri] at hfile
      have hnothing : attempts offered = [] := by rw [attempts, hfile]; rfl
      have hfulfils' : Fulfils [] offered := .of_attempts hnothing hwrote.lasting
      exact ⟨_, counts, hwrote.trans hmore, hbrackets.append hbrackets', hlength,
        hfulfils'.append hfulfils hlasting⟩
    | some uri =>
      rw [huri] at hfile
      obtain ⟨n, hblock⟩ := hfile
      exact ⟨_, n :: counts, hwrote.trans hmore, hbrackets.append hbrackets',
        congrArg (· + 1) hlength, hblock.append hfulfils hlasting⟩

/-- **What a scan offers**: one block for each file that can be loaded, in the order of the
files. -/
theorem scan_fulfils (config : Config) (base : String) (files : List SourceFile) :
    ∃ offered counts,
      Wrote dead s (scan config base client.logged.service files s).state offered ∧
      Brackets offered ∧ counts.length = (client.loadable files).length ∧
      Fulfils (Topic.blocks (client.loadable files) counts) offered := by
  have hnever : ∀ t, client.logged.service.cancelled t = false := fun _ => rfl
  have hwatched := scan_watched config hnever base files s
  obtain ⟨hanswers, hstate⟩ := scan_answers config client.logged.service none base files s
  obtain ⟨records, unstarted, hcovers⟩ :=
    scanFiles_covers config base client.logged.service none files.length files 1 ⟨s, []⟩
  have hcalls : (scan config base (client.logged.service.watched none) files ⟨s, []⟩).state.calls =
      records.flatMap FileRecord.calls := hcovers.calls
  have hfiles : records.map FileRecord.file = files := by
    rw [hcovers.files, hcovers.unstarted_eq_nil, List.append_nil]
  rw [hcalls] at hanswers hstate
  rw [hwatched.2.2, hstate, ← hfiles]
  exact records_wrote hfails hsteady (fun r hr => (hcovers.ends r hr).fileCalls) hanswers

/-! ## The first and the last exchange -/

omit hfails hsteady in
/-- A request is granted just if it succeeds, with or without a log. -/
theorem granted_iff (limit : Option Nat) (method : String) (params : Json) :
    s.unlogged.Granted client.peer limit method params ↔
      ∃ v, (s.requestWithin client.logged.peer limit method params).1 = .ok v :=
  (granted_unlogged client.peer limit method params s).trans
    (requestWithin_ok_iff client.logged.peer limit method params s).symm

omit hsteady in
/-- After a handshake that is granted the client says that it is ready. -/
theorem readiness_wrote {t : Session (Logged σ)} {offered : List (Json × Bool)}
    (hwrote : Wrote dead s t offered) (hoffers : offers offered = [(⟨"initialize", none⟩, true)]) :
    let ready := client.logged.notify "initialized" (.object []) t
    ∃ said, Wrote dead s ready.2 said ∧
      attempts said = [⟨"initialize", none⟩, ⟨"initialized", none⟩] ∧
      (ready.1 = .ok () ∧
          offers said = [(⟨"initialize", none⟩, true), (⟨"initialized", none⟩, true)] ∨
        (∃ fault, ready.1 = .error fault) ∧ ⟨"initialized", none⟩ ∉ taken said) := by
  obtain ⟨told, hnotified, hresult⟩ := notify_wrote hfails "initialized" (.object []) t
  have hboth : offers (offered ++ [(Message.notification "initialized" (.object []), told)]) =
      [(⟨"initialize", none⟩, true), (⟨"initialized", none⟩, told)] := by
    rw [offers_append, hoffers]
    rfl
  refine ⟨_, hwrote.trans hnotified, by rw [attempts, hboth]; rfl, ?_⟩
  rcases hresult with ⟨hok, rfl⟩ | ⟨hfault, rfl⟩
  · exact .inl ⟨hok, hboth⟩
  · refine .inr ⟨hfault, ?_⟩
    rw [taken, hboth]
    decide

/-- The first exchange: the server hears that the client is ready just if it granted the request. -/
theorem handshake_wrote (root : String) (options : Option Json) :
    ∃ offered, Wrote dead s (client.logged.handshake root options s).2 offered ∧
      (⟨"initialized", none⟩ ∈ attempts offered ↔ ∃ uri ∈ Uri.ofFolder? root,
        s.unlogged.Granted client.peer client.requestLimit "initialize"
          (Message.introduction client.processId uri ((Path.fileName? root).getD "workspace")
            options)) ∧
      match (client.logged.handshake root options s).1 with
      | .ok _ => offers offered = [(⟨"initialize", none⟩, true), (⟨"initialized", none⟩, true)]
      | .error _ => attempts offered <+: [⟨"initialize", none⟩, ⟨"initialized", none⟩] ∧
        ⟨"initialized", none⟩ ∉ taken offered := by
  cases huri : Uri.ofFolder? root with
  | none =>
    simp only [handshake, huri]
    refine ⟨[], .refl s, iff_of_false List.not_mem_nil ?_, List.nil_prefix, List.not_mem_nil⟩
    rintro ⟨_, h, -⟩
    cases h
  | some uri =>
    have hid : client.logged.processId = client.processId := rfl
    have hlimit : client.logged.requestLimit = client.requestLimit := rfl
    have htopic : ∀ id, (Message.request id "initialize" (Message.introduction client.processId uri
        ((Path.fileName? root).getD "workspace") options)).topic? = some ⟨"initialize", none⟩ := by
      intro id
      cases options <;> rfl
    simp only [handshake, request, huri, hid, hlimit, Option.mem_def, Option.some.injEq,
      exists_eq_left']
    generalize Message.introduction client.processId uri
      ((Path.fileName? root).getD "workspace") options = params at htopic ⊢
    obtain ⟨told, offered, hwrote, hoffers, hrefused⟩ :=
      request_wrote hfails hsteady client.requestLimit _ _ htopic
    rw [granted_iff]
    rcases hrequest : s.requestWithin client.logged.peer client.requestLimit "initialize" params
      with ⟨fault | v, t⟩
    all_goals rw [hrequest] at hwrote hrefused
    · have hattempts : attempts offered = [⟨"initialize", none⟩] := by rw [attempts, hoffers]; rfl
      refine ⟨offered, hwrote, ?_, ?_, ?_⟩
      · rw [hattempts]
        refine iff_of_false (by decide) ?_
        rintro ⟨_, h⟩
        cases h
      · rw [hattempts]
        exact List.prefix_append [_] [_]
      · rw [taken, hoffers]
        cases told <;> decide
    · obtain rfl : told = true := by
        cases told with
        | true => rfl
        | false =>
          obtain ⟨cause, hcause⟩ := hrefused rfl
          cases hcause
      obtain ⟨said, hsaid, hattempts, hresult⟩ := readiness_wrote hfails hwrote hoffers
      simp only [andThen]
      rcases hnotify : client.logged.notify "initialized" (.object []) t with ⟨fault | _, last⟩
      all_goals
        rw [hnotify] at hsaid hresult
        refine ⟨said, hsaid, iff_of_true (by rw [hattempts]; decide) ⟨v, rfl⟩, ?_⟩
      · obtain ⟨-, htaken⟩ := hresult.resolve_left fun h => by cases h.1
        exact ⟨hattempts ▸ List.prefix_rfl, htaken⟩
      · refine (hresult.resolve_right fun h => ?_).2
        obtain ⟨⟨_, hcause⟩, -⟩ := h
        cases hcause

/-- What is said after the request for the farewell: that the server should exit, if that is
granted. The farewell succeeds if the server takes it. -/
def Departs (granted : Prop) (farewell : Except Fault Unit) (last : List (Json × Bool)) : Prop :=
  granted ∧ (∃ told, last = [(Message.notification "exit" .null, told)] ∧
      (farewell = .ok () ↔ told = true)) ∨
    ¬ granted ∧ last = [] ∧ farewell ≠ .ok ()

/-- The last exchange: the server is told to exit just if it granted the request, and after that
nothing is said. -/
theorem shutdown_wrote :
    ∃ asked last, Wrote dead s (client.logged.shutdown s).2 (asked ++ last) ∧
      attempts asked = [⟨"shutdown", none⟩] ∧
      Departs (s.unlogged.Granted client.peer (some client.shutdownLimit) "shutdown" .null)
        (client.logged.shutdown s).1 last := by
  have htopic : ∀ id, (Message.request id "shutdown" .null).topic? = some ⟨"shutdown", none⟩ :=
    fun id => rfl
  obtain ⟨told, offered, hwrote, hoffers, -⟩ :=
    request_wrote hfails hsteady (some client.shutdownLimit) _ _ htopic
  have hattempts : attempts offered = [⟨"shutdown", none⟩] := by rw [attempts, hoffers]; rfl
  have hlimit : client.logged.shutdownLimit = client.shutdownLimit := rfl
  rw [granted_iff]
  simp only [shutdown, hlimit]
  rcases hrequest : s.requestWithin client.logged.peer (some client.shutdownLimit) "shutdown" .null
    with ⟨fault | v, t⟩
  all_goals rw [hrequest] at hwrote
  · refine ⟨offered, [], ?_, hattempts, .inr ⟨?_, rfl, fun h => by cases h⟩⟩
    · rw [List.append_nil]
      exact hwrote
    · rintro ⟨_, h⟩
      cases h
  · obtain ⟨told, hnotified, hresult⟩ := notify_wrote hfails "exit" .null t
    refine ⟨offered, _, hwrote.trans hnotified, hattempts, .inl ⟨⟨v, rfl⟩, told, rfl, ?_⟩⟩
    rcases hresult with ⟨hok, htold⟩ | ⟨⟨cause, hcause⟩, htold⟩
    · exact iff_of_true hok htold
    · refine iff_of_false (fun h => ?_) (by rw [htold]; exact Bool.false_ne_true)
      cases hcause.symm.trans h

end Client

end DeadSymbols
