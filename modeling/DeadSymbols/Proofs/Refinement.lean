import DeadSymbols.Proofs.Serving
import DeadSymbols.Proofs.Verdicts

/-!
# Clients refine tables

A scan over a client of a server that answers from a table has the outcome of a scan that reads the
table itself.

* `Client.conversation`: the requests and notifications of a scan.
* `Client.documentSymbols_served`, `Client.references_served`: the answer to one query.
* `Client.scanFile_served`: the verdict on a file, and what is written about it.
* `Client.scan_refines`: the outcome of a scan, and all that is written.
-/

namespace DeadSymbols

/-- The requests for the references to the symbols at some places, numbered from `id`. -/
def Message.queries (id : Nat) (uri : String) : List Position → List Json
  | [] => []
  | place :: rest => referencesRequest id uri place :: queries (id + 1) uri rest

/-- If a message has a number, it is one of 64 bits with a sign. -/
def Json.HasId64 (message : Json) : Prop :=
  ∀ id ∈ (message.get? "id").bind Json.asNat?, id < 0x8000000000000000

instance (message : Json) : Decidable message.HasId64 :=
  inferInstanceAs
    (Decidable (∀ id ∈ (message.get? "id").bind Json.asNat?, id < 0x8000000000000000))

theorem Json.HasId64.request {id : Nat} {method : String} {params : Json}
    (h : (Message.request id method params).HasId64) : id < 0x8000000000000000 := by
  have hnumber : ((Message.request id method params).get? "id").bind Json.asNat? = some id := by
    show Json.asNat? (.integer id) = some id
    rw [Json.asNat?, if_pos (Int.natCast_nonneg id), Int.toNat_natCast]
  exact h id hnumber

namespace Client

variable {σ : Type}

/-- What a client writes about a file, with requests numbered from `id`: nothing if the file cannot
be read. -/
def messagesAbout (client : Client σ) (config : Config) (answers : FileAnswers) (id : Nat)
    (path : String) : List Json :=
  match Document.ofPath path, client.files.readText path with
  | .ok document, .ok text =>
    Message.opening client.languageId document.uri text ::
      Message.outlineRequest id document.uri ::
        (Message.queries (id + 1) document.uri (answers.asked (answers.places config)) ++
          [Message.closing document.uri])
  | _, _ => []

/-- How many of these messages are requests. -/
def requestsAbout (client : Client σ) (config : Config) (answers : FileAnswers) (path : String) :
    Nat :=
  match Document.ofPath path, client.files.readText path with
  | .ok _, .ok _ => (answers.asked (answers.places config)).length + 1
  | _, _ => 0

/-- What a client writes about files, one after another. -/
def conversation (client : Client σ) (config : Config) (answers : String → FileAnswers) :
    Nat → List String → List Json
  | _, [] => []
  | id, path :: rest =>
    client.messagesAbout config (answers path) id path ++
      client.conversation config answers
        (id + client.requestsAbout config (answers path) path) rest

end Client

/-! ## Decoded answers -/

variable {σ : Type}

/-- What is decoded from a response that gives an answer. -/
theorem Json.Gives.decoded {α β : Type} {encodes : α → Json → Prop} {v : Json}
    {answer : Except Fault (Option α)} (h : v.Gives encodes answer) (method : String)
    (decode : Json → Option (Option β)) (value : β → α) (hnull : decode .null = some none)
    (hencodes : ∀ a result, encodes a result →
      ∃ b, decode result.normal = some (some b) ∧ value b = a) :
    ((Route.resultOf method v.normal).bind fun result =>
      (Client.decoded decode result).map (Option.map value)).toOption = answer.toOption := by
  rcases answer with fault | _ | a
  · obtain ⟨⟨ms, herror⟩, -⟩ := h
    rw [Route.resultOf, get_normal, herror]
    rfl
  · obtain ⟨herror, hresult⟩ := h
    have hdecoded : Client.decoded decode .null = .ok none := by rw [Client.decoded, hnull]
    have hvalue : ((v.get? "result").map normal).getD .null = .null := by
      cases hv : v.get? "result" with
      | none => rfl
      | some w =>
        rcases hresult w hv with rfl | hfalse
        · rfl
        · exact hfalse.elim
    rw [Route.resultOf, get_normal, herror, Option.map_none, get_normal]
    simp only [hvalue, Except.bind, hdecoded]
    rfl
  · obtain ⟨herror, result, hresult, ha⟩ := h
    obtain ⟨b, hb, rfl⟩ := hencodes a result ha
    have hdecoded : Client.decoded decode result.normal = .ok (some b) := by
      rw [Client.decoded, hb]
    rw [Route.resultOf, get_normal, herror, Option.map_none, get_normal, hresult]
    simp only [Option.map_some, Option.getD_some, Except.bind, hdecoded]
    rfl

namespace Client

/-! ## Calls -/

variable {client : Client σ} {answers : String → FileAnswers} {paths : List String}
  {ready : σ → Prop} {begun : σ → List UInt8} {path : String} {document : Document}

section Calls

variable (hserves : client.peer.Serves answers paths ready begun)
  (hlimit : client.requestLimit = none) (hpath : path ∈ paths)
  (hdocument : Document.ofPath path = .ok document)
include hserves hlimit hpath hdocument

/-- **The query for the outline of a document** gives the answer in the table. -/
theorem documentSymbols_served {s : Session σ} (hquiet : s.Quiet ready)
    (hid : s.nextId < 0x8000000000000000) :
    ∃ answer after, client.documentSymbols document s = (answer, after) ∧
      answer.toOption = (answers path).outline.toOption ∧ after.Quiet ready ∧
      after.nextId = s.nextId + 1 ∧
      after.calls = s.calls ++ [Message.outlineRequest s.nextId document.uri] := by
  obtain ⟨arrivals, q, hhear, hready, hresponds⟩ :=
    hserves.outline s.clock s.nextId path document s.peer hquiet.ready hid hpath hdocument
  obtain ⟨v, after, hrequest, hgives, hafter⟩ := Session.requestWithin_replied hserves
    (fun outline result => Json.EncodesOutline.nesting_lt) hquiet hid hhear hready hresponds
  refine ⟨_, after, ?_, hgives.decoded "textDocument/documentSymbol"
    Outline.ofJson? Outline.symbols rfl ?_, hafter⟩
  · rw [documentSymbols, request, hlimit, hrequest, andThen_pure]
  · rintro outline result ⟨-, vs, rfl, hall⟩
    obtain ⟨shape, hshape⟩ := Outline.ofJson_encoded hall
    exact ⟨⟨shape, outline⟩, hshape, rfl⟩

/-- **A query for references** gives the count in the table. -/
theorem references_served (place : Position) {s : Session σ} (hquiet : s.Quiet ready)
    (hid : s.nextId < 0x8000000000000000) :
    ∃ answer after, client.references document place s = (answer, after) ∧
      answer.toOption = ((answers path).references place).toOption ∧ after.Quiet ready ∧
      after.nextId = s.nextId + 1 ∧
      after.calls = s.calls ++ [Message.referencesRequest s.nextId document.uri place] := by
  obtain ⟨arrivals, q, hhear, hready, hresponds⟩ :=
    hserves.references s.clock s.nextId path document place s.peer hquiet.ready hid hpath hdocument
  obtain ⟨v, after, hrequest, hgives, hafter⟩ := Session.requestWithin_replied hserves
    (fun count result => Json.EncodesCount.nesting_lt) hquiet hid hhear hready hresponds
  refine ⟨_, after, ?_, hgives.decoded "textDocument/references" Location.list?
    List.length rfl ?_, hafter⟩
  · rw [references, locations, request, hlimit, hrequest, andThen_pure]
    cases Route.resultOf "textDocument/references" v.normal with
    | error fault => rfl
    | ok result =>
      cases h : decoded Location.list? result <;> simp [andThen, Except.bind, Except.map, h]
  · rintro count result ⟨vs, rfl, rfl, hall⟩
    obtain ⟨found, hfound, hlength⟩ := Location.list_encoded fun v hv => (hall v hv).2
    exact ⟨found, hfound, hlength⟩

/-- **A round of queries** has the counts of the table, up to its first fault. -/
theorem askAll_served (places : List Position) {s : Session σ} (hquiet : s.Quiet ready)
    (hids : ∀ m ∈ Message.queries s.nextId document.uri ((answers path).asked places), m.HasId64) :
    let round := client.service.askAll document places s
    round.counts = (answers path).counts places ∧ round.state.Quiet ready ∧
      round.state.nextId = s.nextId + ((answers path).asked places).length ∧
      round.state.calls =
        s.calls ++ Message.queries s.nextId document.uri ((answers path).asked places) := by
  induction places generalizing s with
  | nil => exact ⟨rfl, hquiet, rfl, (List.append_nil _).symm⟩
  | cons place rest ih =>
    have hid : s.nextId < 0x8000000000000000 := by
      obtain ⟨more, hmore⟩ := (answers path).asked_cons place rest
      rw [hmore] at hids
      exact (hids _ List.mem_cons_self).request
    obtain ⟨answer, after, hasked, hsame, hquiet', hnext, hcalls⟩ :=
      references_served hserves hlimit hpath hdocument place hquiet hid
    have hasked' : client.service.references document place s = (answer, after) := hasked
    cases htable : (answers path).references place with
    | error fault =>
      -- the round ends with this query
      obtain ⟨fault', rfl⟩ : ∃ fault', answer = .error fault' := by
        rw [htable] at hsame
        cases answer with
        | error fault' => exact ⟨fault', rfl⟩
        | ok count => cases hsame
      simp only [Service.askAll, hasked', FileAnswers.counts, FileAnswers.asked, htable]
      exact ⟨trivial, hquiet', hnext, hcalls⟩
    | ok count =>
      obtain rfl : answer = .ok count := by
        rw [htable] at hsame
        cases answer with
        | error fault' => cases hsame
        | ok count' => rw [Option.some.inj hsame]
      -- the rest of the round starts with the next id
      simp only [FileAnswers.asked, htable] at hids
      obtain ⟨hcounts, hround, hnext', hcalls'⟩ := ih hquiet' (by
        rw [hnext]
        exact fun m hm => hids m (List.mem_cons_of_mem _ hm))
      simp only [Service.askAll, hasked', FileAnswers.counts, FileAnswers.asked, htable]
      refine ⟨congrArg (count :: ·) hcounts, hround, ?_, ?_⟩
      · rw [hnext', hnext, List.length_cons]
        omega
      · rw [hcalls', hcalls, hnext, List.append_assoc]
        rfl

/-- The walk of a document has the verdict of the table. -/
theorem walkDocument_served (config : Config) {s : Session σ} (hquiet : s.Quiet ready)
    (hids : ∀ m ∈ Message.outlineRequest s.nextId document.uri ::
      Message.queries (s.nextId + 1) document.uri
        ((answers path).asked ((answers path).places config)), m.HasId64) :
    let scan := walkDocument config client.service document s
    scan.verdict = (answers path).walked config path ∧ scan.state.Quiet ready ∧
      scan.state.nextId =
        s.nextId + (((answers path).asked ((answers path).places config)).length + 1) ∧
      scan.state.calls = s.calls ++ Message.outlineRequest s.nextId document.uri ::
        Message.queries (s.nextId + 1) document.uri
          ((answers path).asked ((answers path).places config)) := by
  have hid : s.nextId < 0x8000000000000000 := (hids _ List.mem_cons_self).request
  obtain ⟨answer, opened, hasked, hsame, hquiet', hnext, hcalls⟩ :=
    documentSymbols_served hserves hlimit hpath hdocument hquiet hid
  obtain ⟨hcounts, hround, hnext', hcalls'⟩ := askAll_served hserves hlimit hpath hdocument
    ((answers path).places config) hquiet' (by
      rw [hnext]
      exact fun m hm => hids m (List.mem_cons_of_mem _ hm))
  have houtline : client.service.documentSymbols document s = (answer, opened) := hasked
  obtain ⟨hverdict, hstate⟩ := walkDocument_verdict houtline hsame (fun n => rfl) hcounts
  rw [Document.path_of_ofPath hdocument] at hverdict
  refine ⟨hverdict, ?_, ?_, ?_⟩
  · rw [hstate]
    exact hround
  · rw [hstate, hnext', hnext]
    omega
  · rw [hstate, hcalls', hcalls, hnext, List.append_assoc]
    rfl

end Calls

/-- A file that cannot be read is not opened, and nothing is written about it. -/
theorem openDocument_unread {s : Session σ} (hquiet : s.Quiet ready) {cause : OsError}
    (hdocument : Document.ofPath path = .ok document)
    (hread : client.files.readText path = .error cause) :
    ∃ after, client.openDocument path s = (.error (.load path cause), after) ∧
      after.Quiet ready ∧ after.nextId = s.nextId ∧ after.calls = s.calls := by
  have hopen := Session.isAbandoned_of_patient hquiet.closing
  refine ⟨{ s with atHand := max s.atHand (s.clock + 1) }, ?_, hquiet.handed _, rfl, rfl⟩
  simp only [openDocument, hdocument, hopen, Bool.false_eq_true, if_false, hread]

/-- A file that can be read is opened with its text. -/
theorem openDocument_served (hserves : client.peer.Serves answers paths ready begun)
    {s : Session σ} (hquiet : s.Quiet ready) {text : String}
    (hdocument : Document.ofPath path = .ok document)
    (hread : client.files.readText path = .ok text) :
    ∃ after, client.openDocument path s = (.ok document, after) ∧ after.Quiet ready ∧
      after.nextId = s.nextId ∧
      after.calls = s.calls ++ [Message.opening client.languageId document.uri text] := by
  have hopen := Session.isAbandoned_of_patient hquiet.closing
  obtain ⟨after, hnotify, hafter⟩ := Session.notify_heard hserves "textDocument/didOpen"
    (.object [("textDocument", .object [("languageId", .text client.languageId),
      ("text", .text text), ("uri", .text document.uri), ("version", .integer 1)])])
    (hquiet.handed (max s.atHand (s.clock + 1)))
  refine ⟨after, ?_, hafter⟩
  simp only [openDocument, hdocument, hopen, Bool.false_eq_true, if_false, hread, notify, hnotify,
    andThen]

/-- **The scan of a file** has the verdict of the table, if the file can be read. -/
theorem scanFile_served (hserves : client.peer.Serves answers paths ready begun)
    (hlimit : client.requestLimit = none) (hpath : path ∈ paths) (config : Config) {s : Session σ}
    (hquiet : s.Quiet ready)
    (hids : ∀ m ∈ client.messagesAbout config (answers path) s.nextId path, m.HasId64) :
    let scan := scanFile config client.service path s
    scan.verdict = ((answers path).readFrom client.files path).verdict config path ∧
      scan.state.Quiet ready ∧
      scan.state.nextId = s.nextId + client.requestsAbout config (answers path) path ∧
      scan.state.calls = s.calls ++ client.messagesAbout config (answers path) s.nextId path := by
  cases hdocument : Document.ofPath path with
  | error fault =>
    -- neither side can load a file without a document
    have hload : fault.isLoadFailure = true := Document.isLoadFailure_of_ofPath hdocument
    have hopen : client.service.openDocument path s = (.error fault, s) := by
      simp only [service, openDocument, hdocument]
    obtain ⟨hverdict, hstate⟩ := scanFile_unopened config hopen
    have hverdict' : ((answers path).readFrom client.files path).verdict config path =
        (some .skipped, []) := by
      cases hread : client.files.readText path with
      | error cause =>
        simp only [FileAnswers.verdict, FileAnswers.load, FileAnswers.readFrom, hread]
        rfl
      | ok text =>
        simp only [FileAnswers.verdict, FileAnswers.load, FileAnswers.readFrom, hread, hdocument,
          hload, if_true]
    simp only [hverdict, hstate, hverdict', hload, if_true, messagesAbout, requestsAbout, hdocument]
    exact ⟨trivial, hquiet, rfl, (List.append_nil _).symm⟩
  | ok document =>
    cases hread : client.files.readText path with
    | error cause =>
      -- the server hears nothing of the file
      obtain ⟨after, hopen, hquiet', hnext, hcalls⟩ := openDocument_unread hquiet hdocument hread
      have hopen' : client.service.openDocument path s = (.error (.load path cause), after) := hopen
      obtain ⟨hverdict, hstate⟩ := scanFile_unopened config hopen'
      simp only [hverdict, hstate, hnext, hcalls, FileAnswers.verdict, FileAnswers.load,
        FileAnswers.readFrom, hread, messagesAbout, requestsAbout, hdocument]
      exact ⟨trivial, hquiet', rfl, (List.append_nil _).symm⟩
    | ok text =>
      have hmessages : client.messagesAbout config (answers path) s.nextId path =
          Message.opening client.languageId document.uri text ::
            ((Message.outlineRequest s.nextId document.uri ::
              Message.queries (s.nextId + 1) document.uri
                ((answers path).asked ((answers path).places config))) ++
              [Message.closing document.uri]) := by
        simp only [messagesAbout, hdocument, hread, List.cons_append]
      have hrequests : client.requestsAbout config (answers path) path =
          ((answers path).asked ((answers path).places config)).length + 1 := by
        simp only [requestsAbout, hdocument, hread]
      rw [hmessages] at hids ⊢
      intro scan
      -- open, walk and close, each from the quiet session that the one before leaves
      obtain ⟨opened, hopen, hquiet', hnext, hcalls⟩ :=
        openDocument_served hserves hquiet hdocument hread
      obtain ⟨hwalked, hquiet'', hnext', hcalls'⟩ := walkDocument_served hserves hlimit hpath
        hdocument config hquiet' (by
          rw [hnext]
          exact fun m hm => hids m (List.mem_cons_of_mem _ (List.mem_append_left _ hm)))
      have hopen' : client.service.openDocument path s = (.ok document, opened) := hopen
      obtain ⟨hverdict, hstate⟩ := scanFile_opened config hopen'
      obtain ⟨after, hclose, hlast, hid, hclosed⟩ := Session.notify_heard hserves
        "textDocument/didClose" (.object [Message.textDocument document.uri]) hquiet''
      have hrelease : client.service.release document
          (walkDocument config client.service document opened).state = (.ok (), after) := hclose
      have hlast' : scan.state = after := hstate.trans (congrArg Prod.snd hrelease)
      have hverdict' : scan.verdict = (answers path).walked config path := hverdict.trans hwalked
      rw [hlast', hverdict', hid, hclosed, hnext', hcalls', hcalls, hnext, hrequests]
      refine ⟨?_, hlast, rfl, ?_⟩
      · have hload : ((answers path).readFrom client.files path).load path = .ok document := by
          simp only [FileAnswers.load, FileAnswers.readFrom, hread, hdocument]
        rw [FileAnswers.verdict, hload]
        simp only [FileAnswers.walked_readFrom, Document.path_of_ofPath hdocument]
      · simp only [List.append_assoc]
        rfl

/-- What is written, and what is still to be written about the rest of some files, make up a
conversation. -/
structure Continues (client : Client σ) (config : Config) (answers : String → FileAnswers)
    (paths : List String) (ready : σ → Prop) (all : List Json) (rest : List SourceFile)
    (s : Session σ) : Prop where
  quiet : s.Quiet ready
  listed : ∀ file ∈ rest, file.path ∈ paths
  calls : s.calls ++ client.conversation config answers s.nextId (rest.map SourceFile.path) = all
  ids : ∀ m ∈ client.conversation config answers s.nextId (rest.map SourceFile.path), m.HasId64

/-- The scan of a file goes on with a conversation. -/
theorem Continues.step (hserves : client.peer.Serves answers paths ready begun)
    (hlimit : client.requestLimit = none) {config : Config} {all : List Json} {file : SourceFile}
    {rest : List SourceFile} {s : Session σ}
    (h : client.Continues config answers paths ready all (file :: rest) s) :
    let scan := scanFile config client.service file.path s
    scan.verdict = ((answers file.path).readFrom client.files file.path).verdict config file.path ∧
      client.Continues config answers paths ready all rest scan.state := by
  obtain ⟨hquiet, hlisted, hcalls, hids⟩ := h
  rw [List.map_cons, conversation] at hcalls hids
  obtain ⟨hverdict, hquiet', hnext, hwritten⟩ := scanFile_served hserves hlimit
    (hlisted file List.mem_cons_self) config hquiet fun m hm => hids m (List.mem_append_left _ hm)
  refine ⟨hverdict, hquiet', fun f hf => hlisted f (List.mem_cons_of_mem _ hf), ?_, ?_⟩
  · rw [hwritten, hnext, List.append_assoc]
    exact hcalls
  · rw [hnext]
    exact fun m hm => hids m (List.mem_append_right _ hm)

/-- **A client refines a table.** A scan over a client of a server that answers from a table, with
anything of its own between the answers, has the outcome of a scan that reads the table and fails
to load the files that the client cannot read, as long as the numbers of its requests fit into 64
bits. Apart from answers to the server the client writes about each file that it can read: that the
file is open, with its text, the request for the outline, the requests for references in preorder up
to the first fault, and that the file is closed. -/
theorem scan_refines (client : Client σ) (answers : String → FileAnswers) (config : Config)
    (base : String) (files : List SourceFile) (s : Session σ) (ready : σ → Prop)
    (begun : σ → List UInt8)
    (hserves : client.peer.Serves answers (files.map SourceFile.path) ready begun)
    (hlimit : client.requestLimit = none) (hquiet : s.Quiet ready)
    (hids : ∀ m ∈ client.conversation config answers s.nextId (files.map SourceFile.path),
      m.HasId64) :
    let direct := table (fun path => (answers path).readFrom client.files path) true
    let run := scan config base client.service files s
    run.outcome = (scan config base direct files {}).outcome ∧
      run.state.calls = s.calls ++
        client.conversation config answers s.nextId (files.map SourceFile.path) := by
  intro direct run
  have hstart : client.Continues config answers (files.map SourceFile.path) ready
      (s.calls ++ client.conversation config answers s.nextId (files.map SourceFile.path))
      files s :=
    ⟨hquiet, fun file hfile => List.mem_map_of_mem hfile, rfl, hids⟩
  obtain ⟨houtcome, hend⟩ := scan_verdicts base
    (client.Continues config answers (files.map SourceFile.path) ready
      (s.calls ++ client.conversation config answers s.nextId (files.map SourceFile.path)))
    (fun path => ((answers path).readFrom client.files path).verdict config path)
    (fun file rest t h => ⟨rfl, h.step hserves hlimit⟩) (fun t h => rfl) files s hstart
  have hdirect := scan_table config base
    (fun path => (answers path).readFrom client.files path) true files
  refine ⟨houtcome.trans hdirect.symm, ?_⟩
  rw [← hend.calls]
  exact (List.append_nil _).symm

end Client

namespace Sample

/-- A folder with one file. -/
def files : FileTree where
  root := .folder [("a.dart", .file (Text.encode "class A"))]
  current := []

/-- A client of the sample server. -/
def client : Client Unit := { peer := peer, files := files, languageId := "dart", processId := 1 }

theorem readText_a : client.files.readText "/a.dart" = .ok "class A" := by rfl

theorem readText_b : client.files.readText "/b.dart" = .error .notFound := by rfl

end Sample

namespace Client

/-- The method is found in the one file that is there, and the other file is skipped. -/
theorem scan_refines_sample :
    let files : List SourceFile := [⟨"/a.dart", "/"⟩, ⟨"/b.dart", "/"⟩]
    let paths := files.map SourceFile.path
    let s : Session Unit := { peer := (), incoming := [] }
    let run := scan {} "/" Sample.client.service files s
    Sample.client.peer.Serves (fun _ => Sample.answers) paths (fun _ => True) (fun _ => []) ∧
      Sample.client.requestLimit = none ∧ s.Quiet (fun _ => True) ∧
      (∀ m ∈ Sample.client.conversation {} (fun _ => Sample.answers) 1 paths, m.HasId64) ∧
      run.outcome = { findings := [⟨"build", "/a.dart", 2, "method"⟩], filesTotal := 2,
                      filesScanned := 1, filesSkipped := 1 } ∧
      run.state.calls = [Message.opening "dart" "file:///a.dart" "class A",
        Message.outlineRequest 1 "file:///a.dart",
        Message.referencesRequest 2 "file:///a.dart" ⟨1, 2⟩,
        Message.closing "file:///a.dart"] := by
  intro files paths s run
  have hserves := Sample.serves paths
  have hquiet : s.Quiet (fun _ => True) := ⟨rfl, trivial, fun a ha => absurd ha List.not_mem_nil⟩
  have ha : Document.ofPath "/a.dart" = .ok ⟨"/a.dart", "file:///a.dart"⟩ := by
    have huri : Uri.ofFile? "/a.dart" = some "file:///a.dart" := by decide +kernel
    rw [Document.ofPath, huri]
  have hb : Document.ofPath "/b.dart" = .ok ⟨"/b.dart", "file:///b.dart"⟩ := by
    have huri : Uri.ofFile? "/b.dart" = some "file:///b.dart" := by decide +kernel
    rw [Document.ofPath, huri]
  have hasked : Sample.answers.asked (Sample.answers.places {}) = [⟨1, 2⟩] := by decide +kernel
  have hconversation : Sample.client.conversation {} (fun _ => Sample.answers) 1 paths =
      [Message.opening "dart" "file:///a.dart" "class A",
        Message.outlineRequest 1 "file:///a.dart",
        Message.referencesRequest 2 "file:///a.dart" ⟨1, 2⟩,
        Message.closing "file:///a.dart"] := by
    simp only [paths, files, List.map_cons, List.map_nil, conversation, messagesAbout, ha, hb,
      Sample.readText_a, Sample.readText_b, hasked]
    rfl
  have hids : ∀ m ∈ Sample.client.conversation {} (fun _ => Sample.answers) 1 paths,
      m.HasId64 := by
    rw [hconversation]
    decide +kernel
  obtain ⟨houtcome, hcalls⟩ := scan_refines Sample.client (fun _ => Sample.answers) {} "/" files s
    (fun _ => True) (fun _ => []) hserves rfl hquiet hids
  refine ⟨hserves, rfl, hquiet, hids, ?_, hcalls.trans hconversation⟩
  rw [houtcome, scan_table]
  simp only [files, List.map_cons, List.map_nil, FileAnswers.readFrom, Sample.readText_a,
    Sample.readText_b]
  decide +kernel

end Client

end DeadSymbols
