import DeadSymbols.Proofs.FlatOutlines
import DeadSymbols.Proofs.Lines
import DeadSymbols.Proofs.Refinement

/-!
# Decoding outlines

An outline is decoded as a whole or not at all. What a server writes is decoded to the same symbols
in the same order, and one symbol that lacks a field it must have, however deep it is nested, leaves
nothing of the answer: the file counts as failed, and nothing is asked or found in it.

* `Symbol.HasRequired`: the fields that a symbol of a tree must have.
* `Json.HasSymbol`: the symbols of an answer, at any depth.
* `Symbol.hasRequired_of_ofNested`, `Symbol.children_of_ofNested`: what a decoded symbol had.
* `Outline.ofJson_flawed`: an answer with a flaw is not decoded.
* `Client.scanFile_flawed`, `Client.scan_flawed`: nor is it scanned.
* `Client.outlines_whole`: what is decoded of outlines, and what a scan makes of a flaw.
-/

namespace DeadSymbols

open Json

/-! ## Fields that a symbol must have -/

/-- A position whose fields are numbers of 32 bits without a sign. -/
def Position.HasFields (v : Json) : Prop :=
  ∀ name ∈ ["line", "character"],
    ∃ n : UInt32, v.field? ["line", "character"] name = some (.integer n.toNat)

/-- A range whose fields are positions. -/
def Range.HasFields (v : Json) : Prop :=
  ∀ name ∈ ["start", "end"],
    ∃ place, v.field? ["start", "end"] name = some place ∧ Position.HasFields place

/-- A symbol of a tree that has each field it must have, of the right type and in range. -/
structure Symbol.HasRequired (v : Json) : Prop where
  name : ∃ s, v.field? fieldNames "name" = some (.text s)
  kind : ∃ n, v.field? fieldNames "kind" = some (.integer n) ∧ IsInt32 n
  range : ∃ w, v.field? fieldNames "range" = some w ∧ Range.HasFields w
  selection : ∃ w, v.field? fieldNames "selectionRange" = some w ∧ Range.HasFields w

/-- The symbols of an answer: the elements of the list, and the elements of the lists that are
children of symbols. -/
inductive Json.HasSymbol : Json → Json → Prop
  | element {vs : List Json} {w : Json} (hw : w ∈ vs) : HasSymbol (.array vs) w
  | child {answer v w : Json} {vs : List Json} (hv : HasSymbol answer v)
      (hvs : v.field? Symbol.fieldNames "children" = some (.array vs)) (hw : w ∈ vs) :
      HasSymbol answer w

theorem Json.HasSymbol.array {v w : Json} (h : v.HasSymbol w) : ∃ vs, v = .array vs := by
  induction h with
  | element => exact ⟨_, rfl⟩
  | child _ _ _ ih => exact ih

/-- An answer that is not taken for a flat outline, and in which the fields of some symbol of a tree
are not as they must be. -/
structure Json.IsFlawed (answer : Json) : Prop where
  not_flat : ∀ symbols, Outline.ofJson? answer ≠ some (some ⟨.flat, symbols⟩)
  flaw : ∃ w, answer.HasSymbol w ∧ ¬ Symbol.HasRequired w

/-- A field of an object in normal form is the member with its name. -/
theorem field_normal {names : List String} {name : String} (hname : name ∈ names)
    (ms : List (String × Json)) :
    (Json.object ms).normal.field? names name = ((Json.object ms).get? name).map normal := by
  obtain ⟨fields, hfields, hlookup⟩ := record_normal names false ms
  rw [field?, hfields]
  exact hlookup name hname

/-! ## What a decoded symbol had -/

theorem asText_eq_some {v : Json} {s : String} (h : v.asText? = some s) : v = .text s := by
  cases v with
  | text t => exact congrArg Json.text (Option.some.inj h)
  | _ => cases h

theorem asInt32_eq_some {v : Json} {n : Int} (h : asInt32? v = some n) :
    v = .integer n ∧ IsInt32 n := by
  cases v with
  | integer m =>
    simp only [asInt32?, asBetween?] at h
    split at h
    · rename_i hrange
      rw [Bool.and_eq_true, decide_eq_true_eq, decide_eq_true_eq] at hrange
      cases h
      exact ⟨rfl, hrange⟩
    · cases h
  | _ => cases h

theorem Position.hasFields_of_ofJson {v : Json} {p : Position} (h : Position.ofJson? v = some p) :
    Position.HasFields v := by
  obtain ⟨fields, hfields, h⟩ := Option.bind_eq_some_iff.1 h
  obtain ⟨line, hline, h⟩ := Option.bind_eq_some_iff.1 h
  obtain ⟨character, hcharacter, -⟩ := Option.bind_eq_some_iff.1 h
  obtain ⟨first, hfirst, hreadFirst⟩ := field_of_required hfields hline
  obtain ⟨second, hsecond, hreadSecond⟩ := field_of_required hfields hcharacter
  rw [asUInt32_eq_some.1 hreadFirst] at hfirst
  rw [asUInt32_eq_some.1 hreadSecond] at hsecond
  exact List.forall_mem_cons.2 ⟨⟨line, hfirst⟩, List.forall_mem_singleton.2 ⟨character, hsecond⟩⟩

theorem Range.hasFields_of_ofJson {v : Json} {range : Range} (h : Range.ofJson? v = some range) :
    Range.HasFields v := by
  obtain ⟨fields, hfields, h⟩ := Option.bind_eq_some_iff.1 h
  obtain ⟨start, hstart, h⟩ := Option.bind_eq_some_iff.1 h
  obtain ⟨stop, hstop, -⟩ := Option.bind_eq_some_iff.1 h
  obtain ⟨first, hfirst, hreadFirst⟩ := field_of_required hfields hstart
  obtain ⟨last, hlast, hreadLast⟩ := field_of_required hfields hstop
  exact List.forall_mem_cons.2 ⟨⟨first, hfirst, Position.hasFields_of_ofJson hreadFirst⟩,
    List.forall_mem_singleton.2 ⟨last, hlast, Position.hasFields_of_ofJson hreadLast⟩⟩

/-- Every element of a list that is read is read. -/
theorem read_of_list {α : Type} {read : Json → Option α} {vs : List Json} {as : List α}
    (h : Json.list? read (.array vs) = some as) : ∀ w ∈ vs, ∃ a, read w = some a := by
  change vs.mapM read = some as at h
  induction vs generalizing as with
  | nil => exact fun w hw => absurd hw List.not_mem_nil
  | cons v rest ih =>
    rw [List.mapM_cons] at h
    obtain ⟨a, ha, h⟩ := Option.bind_eq_some_iff.1 h
    obtain ⟨more, hmore, -⟩ := Option.bind_eq_some_iff.1 h
    exact List.forall_mem_cons.2 ⟨⟨a, ha⟩, ih hmore⟩

namespace Symbol

/-- A symbol that was decoded has the fields it must have. -/
theorem hasRequired_of_ofNested {fuel : Nat} {v : Json} {s : Symbol}
    (h : ofNested? (fuel + 1) v = some s) : HasRequired v := by
  obtain ⟨fields, name, kind, range, selection, children, hfields, hname, hkind, hrange, hselection,
    -, -⟩ := of_ofNested h
  refine ⟨?name, ?kind, ?range, ?selection⟩
  case name =>
    obtain ⟨w, hw, hread⟩ := field_of_required hfields hname
    rw [asText_eq_some hread] at hw
    exact ⟨name, hw⟩
  case kind =>
    obtain ⟨w, hw, hread⟩ := field_of_required hfields hkind
    obtain ⟨n, hn, -⟩ := Option.map_eq_some_iff.1 hread
    obtain ⟨rfl, hint⟩ := asInt32_eq_some hn
    exact ⟨n, hw, hint⟩
  case range =>
    obtain ⟨w, hw, hread⟩ := field_of_required hfields hrange
    exact ⟨w, hw, Range.hasFields_of_ofJson hread⟩
  case selection =>
    obtain ⟨w, hw, hread⟩ := field_of_required hfields hselection
    exact ⟨w, hw, Range.hasFields_of_ofJson hread⟩

/-- And the elements of the list of its children were decoded. -/
theorem children_of_ofNested {fuel : Nat} {v : Json} {s : Symbol}
    (h : ofNested? (fuel + 1) v = some s) {vs : List Json}
    (hvs : v.field? fieldNames "children" = some (.array vs)) :
    ∀ w ∈ vs, ∃ child, ofNested? fuel w = some child := by
  obtain ⟨fields, name, kind, range, selection, children, hfields, -, -, -, -, hchildren, -⟩ :=
    of_ofNested h
  have hlookup : fields.lookup "children" = some (.array vs) := by
    rw [field?, hfields] at hvs
    exact hvs
  rw [optional?, hlookup] at hchildren
  obtain ⟨found, hfound, -⟩ := Option.map_eq_some_iff.1 hchildren
  exact read_of_list hfound

/-- **Every symbol of an answer was decoded** if the answer was decoded as a tree. -/
theorem ofNested_of_hasSymbol {fuel : Nat} {answer : Json} {symbols : List Symbol}
    (h : Json.list? (ofNested? fuel) answer = some symbols) {w : Json} (hw : answer.HasSymbol w) :
    ∃ fuel s, ofNested? fuel w = some s := by
  -- from a symbol to its children there is one level of fuel less
  induction hw with
  | element hmem =>
    obtain ⟨s, hs⟩ := read_of_list h _ hmem
    exact ⟨fuel, s, hs⟩
  | child _ hvs hmem ih =>
    obtain ⟨level, s, hs⟩ := ih h
    cases level with
    | zero => cases hs
    | succ level =>
      obtain ⟨child, hchild⟩ := children_of_ofNested hs hvs _ hmem
      exact ⟨level, child, hchild⟩

/-- A symbol of a flat outline has a location. -/
theorem location_of_ofFlat {v : Json} {s : Symbol} (h : ofFlat? v = some s) :
    ∃ w, v.field? ["name", "kind", "tags", "deprecated", "location", "containerName"] "location" =
      some w := by
  obtain ⟨hline, -⟩ := line_of_ofFlat h
  obtain ⟨w, hw, -⟩ := Option.bind_eq_some_iff.1 hline
  exact ⟨w, hw⟩

end Symbol

namespace Outline

/-- An answer with an element without a location is not taken for a flat outline. -/
theorem not_flat {vs : List Json} {w : Json} (hw : w ∈ vs)
    (h : w.field? ["name", "kind", "tags", "deprecated", "location", "containerName"] "location" =
      none) (symbols : List Symbol) :
    ofJson? (.array vs) ≠ some (some ⟨.flat, symbols⟩) := by
  have hnone : Json.list? Symbol.ofFlat? (.array vs) = none := by
    cases hread : Json.list? Symbol.ofFlat? (.array vs) with
    | none => rfl
    | some found =>
      obtain ⟨s, hs⟩ := read_of_list hread w hw
      obtain ⟨location, hlocation⟩ := Symbol.location_of_ofFlat hs
      cases h.symm.trans hlocation
  rw [ofJson?, nullable_array, ofAnswer?, hnone]
  intro hflat
  obtain ⟨outline, houtline, hsame⟩ := Option.map_eq_some_iff.1 hflat
  obtain ⟨found, -, rfl⟩ := Option.map_eq_some_iff.1 houtline
  cases hsame

/-- In what a server writes that is an object without that member. -/
theorem not_flat_normal {vs : List Json} {ms : List (String × Json)} (hms : .object ms ∈ vs)
    (h : (Json.object ms).get? "location" = none) (symbols : List Symbol) :
    ofJson? (Json.array vs).normal ≠ some (some ⟨.flat, symbols⟩) := by
  rw [normal, normalElements_eq]
  refine not_flat (List.mem_map_of_mem hms) ?_ symbols
  rw [field_normal (by decide), h]
  rfl

/-- **An answer with a flaw is not decoded**, however deep the flaw is nested. -/
theorem ofJson_flawed {answer : Json} (h : answer.IsFlawed) : ofJson? answer = none := by
  obtain ⟨w, hw, hflaw⟩ := h.flaw
  have hflat := h.not_flat
  obtain ⟨vs, rfl⟩ := hw.array
  rw [ofJson?, nullable_array, ofAnswer?] at hflat ⊢
  cases hlist : Json.list? Symbol.ofFlat? (.array vs) with
  | some symbols =>
    rw [hlist] at hflat
    exact absurd rfl (hflat symbols)
  | none =>
    cases htree : Json.list? (Symbol.ofNested? (Json.array vs).depth) (.array vs) with
    | none => rfl
    | some symbols =>
      obtain ⟨fuel, s, hs⟩ := Symbol.ofNested_of_hasSymbol htree hw
      cases fuel with
      | zero => cases hs
      | succ fuel => exact absurd (Symbol.hasRequired_of_ofNested hs) hflaw

end Outline

/-! ## Scans -/

namespace Client

variable {σ : Type} {client : Client σ} {document : Document} {s t u : Session σ} {answer : Json}

theorem documentSymbols_flawed
    (hanswer : client.request "textDocument/documentSymbol"
      (.object [Message.textDocument document.uri]) t = (.ok answer, u))
    (hflawed : answer.IsFlawed) : client.documentSymbols document t = (.error .json, u) := by
  rw [documentSymbols, hanswer]
  simp only [andThen, decoded, Outline.ofJson_flawed hflawed]
  rfl

/-- **A file with a flawed outline** is opened and closed, and nothing is asked about it or found in
it in between. -/
theorem scanFile_flawed (config : Config) {path : String}
    (hopen : client.openDocument path s = (.ok document, t))
    (hanswer : client.request "textDocument/documentSymbol"
      (.object [Message.textDocument document.uri]) t = (.ok answer, u))
    (hflawed : answer.IsFlawed) :
    scanFile config client.service path s =
      { status := .error .json, findings := [],
        events := [.openDocument path, .documentSymbols document.path,
          .closeDocument document.path],
        state := (client.closeDocument document u).2 } := by
  have hsymbols := documentSymbols_flawed hanswer hflawed
  have hwalk : walkDocument config client.service document t =
      ⟨.error .json, [], [.documentSymbols document.path], u⟩ := by
    unfold walkDocument
    simp only [service, hsymbols]
    rfl
  unfold scanFile
  simp only [service, hopen] at hwalk ⊢
  rw [hwalk]
  rfl

/-- A scan of `total` files, of which one failed between those of an earlier and those of a later
scan. It has the findings, the queries and the numbers of these two, and one failure more. -/
structure FailsBetween (total : Nat) (earlier later run : ScanRun (Session σ)) : Prop where
  outcome : run.outcome =
    { findings := earlier.outcome.findings ++ later.outcome.findings
      filesTotal := total
      filesScanned := earlier.outcome.filesScanned + later.outcome.filesScanned
      filesSkipped := earlier.outcome.filesSkipped + later.outcome.filesSkipped
      filesFailed := earlier.outcome.filesFailed + later.outcome.filesFailed + 1 }
  queries : run.queries = earlier.queries ++ later.queries

/-- **A flawed outline is one failure of a scan.** The files before and after it are scanned as they
would be without it. -/
theorem scan_flawed (config : Config) (base : String) (before rest : List SourceFile)
    (file : SourceFile) (s : Session σ) :
    let files := before ++ file :: rest
    let earlier := scanFiles config base client.service files.length 1 before s
    let later := scanFiles config base client.service files.length (before.length + 2) rest
      (client.closeDocument document u).2
    client.openDocument file.path earlier.state = (.ok document, t) →
    client.request "textDocument/documentSymbol" (.object [Message.textDocument document.uri]) t =
      (.ok answer, u) →
    answer.IsFlawed →
    FailsBetween files.length earlier later (scan config base client.service files s) := by
  intro files earlier later hopen hanswer hflawed
  have hfile := scanFile_flawed config hopen hanswer hflawed
  have hrun : scanFiles config base client.service files.length 1 files s =
      earlier.followedBy (later.after (file.relativeTo base)
        (.advance (1 + before.length)
          s!"[{1 + before.length}/{files.length}] Scanning {file.relativeTo base}")
        (scanFile config client.service file.path earlier.state)) := by
    have hnext : 1 + before.length + 1 = before.length + 2 := by omega
    rw [scanFiles_append (fun _ => rfl), scanFiles_cons rfl, hfile, hnext]
  rw [hfile] at hrun
  refine ⟨?_, ?_⟩
  · simp only [scan, hrun]
    rfl
  · simp only [ScanRun.queries, scan, hrun]
    simp [ScanRun.followedBy, ScanRun.after, Event.isQuery]

/-- **Outlines are decoded as a whole or not at all.** What encodes a tree is decoded to the tree,
and never taken for a list unless there is no symbol in it; its text can be read as long as it is
not nested too deep, for which 60 levels of symbols are few enough. What encodes a list is decoded
to a list, for which every element needs a location. If in anything else a symbol at any depth lacks
a field it must have, or has a wrong one, nothing is decoded, and in a scan the file counts as
failed, without a query or a finding. -/
theorem outlines_whole (client : Client σ) (config : Config) (base : String) :
    (∀ (side : Json → Prop) (outline : List Symbol) (vs : List Json),
      Symbol.AllEncodedAs side outline vs →
      let read := some (some ⟨if outline.isEmpty then .flat else .nested, outline⟩)
      Outline.ofJson? (Json.array vs).normal = read ∧
        ∀ text, (Json.array vs).HasText text → (Json.array vs).nesting ≤ maxDepth →
          (Json.ofBytes? (Text.encode text)).bind Outline.ofJson? = read) ∧
    (∀ (outline : List Symbol) (vs : List Json), Symbol.levelsAll outline ≤ 60 →
      Symbol.AllEncodedAs (fun w => w.nesting ≤ 6) outline vs →
      (Json.array vs).nesting < maxDepth) ∧
    (∀ (symbols : List Symbol) (vs : List Json), List.Forall₂ Symbol.FlatEncodedAs symbols vs →
      Outline.ofJson? (Json.array vs).normal = some (some ⟨.flat, symbols.map Symbol.alone⟩)) ∧
    (∀ (vs : List Json) (ms : List (String × Json)), .object ms ∈ vs →
      (Json.object ms).get? "location" = none →
      ∀ symbols, Outline.ofJson? (Json.array vs).normal ≠ some (some ⟨.flat, symbols⟩)) ∧
    (∀ answer : Json, answer.IsFlawed → Outline.ofJson? answer = none) ∧
    ∀ (before rest : List SourceFile) (file : SourceFile) (s t u : Session σ) (document : Document)
      (answer : Json),
      let files := before ++ file :: rest
      let earlier := scanFiles config base client.service files.length 1 before s
      let later := scanFiles config base client.service files.length (before.length + 2) rest
        (client.closeDocument document u).2
      client.openDocument file.path earlier.state = (.ok document, t) →
      client.request "textDocument/documentSymbol" (.object [Message.textDocument document.uri]) t =
        (.ok answer, u) →
      answer.IsFlawed →
      FailsBetween files.length earlier later (scan config base client.service files s) := by
  refine ⟨?tree, ?levels, fun _ _ => Outline.ofJson_flat, fun _ _ => Outline.not_flat_normal,
    fun _ => Outline.ofJson_flawed, ?scan⟩
  case tree =>
    intro side outline vs h read
    have hread := Outline.ofJson_nested h
    refine ⟨hread, ?_⟩
    intro text htext hnesting
    rw [Json.ofBytes_text htext hnesting]
    exact hread
  case levels =>
    intro outline vs hlevels h
    have hnesting := Symbol.nestingAll_encoded (by decide) outline vs h
    rw [nesting, maxDepth]
    omega
  case scan =>
    intro before rest file s t u document answer
    exact scan_flawed config base before rest file s

end Client

namespace Sample

/-- A class with a method with a parameter, which has no place for its name. -/
def unplaced : Json :=
  let symbol (name : String) (kind : Int) (children : List Json) : Json :=
    .object [("children", .array children), ("kind", .integer kind), ("name", .text name),
      ("range", range 0 20), ("selectionRange", range 2 7)]
  .array [symbol "A" 5 [symbol "build" 6 [
    .object [("kind", .integer 13), ("name", .text "context"), ("range", range 8 12)]]]]

/-- A client of a server that gives this for the outline of every document. -/
def unplacedClient : Client Unit where
  peer :=
    { hear time message _ := (.ok (match message.get? "id" with
        | some id => [⟨time, .message (Message.answer id unplaced)⟩]
        | none => []), ())
      accept _ _ := (.ok (), ()) }
  files := files
  languageId := "dart"
  processId := 1

theorem isFlawed_unplaced : unplaced.IsFlawed where
  not_flat := Outline.not_flat List.mem_cons_self rfl
  flaw := by
    refine ⟨.object [("kind", .integer 13), ("name", .text "context"), ("range", range 8 12)],
      .child (.child (.element List.mem_cons_self) rfl List.mem_cons_self) rfl List.mem_cons_self,
      ?_⟩
    intro hrequired
    obtain ⟨w, hw, -⟩ := hrequired.selection
    cases hw

/-- A request to the server is answered with it. -/
theorem request_unplaced {s : Session Unit} (hclosing : s.closing = none)
    (hincoming : s.incoming = []) (hid : s.nextId < 0x8000000000000000) (method : String)
    (params : Json) : ∃ u, unplacedClient.request method params s = (.ok unplaced, u) := by
  have hhear : unplacedClient.peer.hear s.clock (Message.request s.nextId method params) s.peer =
      (.ok [⟨s.clock, .message (Message.answer (.integer s.nextId) unplaced)⟩], ()) := rfl
  have hsend := Session.send_heard { s with nextId := s.nextId + 1 } hclosing hhear
  have hanswer : (Message.answer (.integer s.nextId) unplaced).IsAnswer s.nextId :=
    ⟨rfl, by
      have hget : (Message.answer (.integer s.nextId) unplaced).get? "id" =
          some (.integer s.nextId) := rfl
      rw [hget, Option.bind_some, asInt64_natural hid]⟩
  have hresult : Route.resultOf method (Message.answer (.integer s.nextId) unplaced) =
      .ok unplaced := rfl
  have hroute := route_answer hanswer method
  rw [hresult] at hroute
  have hlimit : unplacedClient.requestLimit = none := rfl
  unfold Client.request Session.requestWithin
  simp only [hsend, hlimit, Option.map_none]
  rw [hincoming, List.nil_append]
  obtain ⟨after, hafter, -⟩ := Session.awaitItem_patient (s := { s with
    peer := (), incoming := [_], nextId := s.nextId + 1, sent := _ }) hclosing s.clock
  exact ⟨_, Session.await_settled hafter rfl hroute⟩

end Sample

/-- The sample with the flaw makes its file a failure; the samples with none are decoded. -/
theorem Client.outlines_whole_sample :
    let nested := Symbol.nestedValues nestedOutline
    let flat := nestedOutline.map (Symbol.flatValue "file:///a.dart")
    let s : Session Unit := { peer := (), incoming := [] }
    let run := scan {} "/" Sample.unplacedClient.service [⟨"/a.dart", "/"⟩] s
    Outline.ofJson? (Json.array nested).normal = some (some ⟨.nested, nestedOutline⟩) ∧
      Outline.ofJson? (Json.array flat).normal =
        some (some ⟨.flat, nestedOutline.map Symbol.alone⟩) ∧
      Outline.ofJson? Sample.unplaced = none ∧
      run.outcome = { filesTotal := 1, filesFailed := 1 } ∧ run.queries = [] := by
  intro nested flat s run
  obtain ⟨htree, -, hlist, -, hflawed, hscan⟩ := outlines_whole Sample.unplacedClient {} "/"
  have hkinds : ∀ place ∈ Symbol.preorderAll [] nestedOutline, IsInt32 place.1.kind.code := by
    decide
  have hflat : List.Forall₂ Symbol.FlatEncodedAs nestedOutline flat := by
    have habsolute : Uri.isAbsolute "file:///a.dart" = true := by decide +kernel
    rw [List.forall₂_map_right_iff, List.forall₂_same]
    intro symbol hsymbol
    have hkind : IsInt32 symbol.kind.code := by
      have hall : ∀ kind ∈ nestedOutline.map Symbol.kind, IsInt32 kind.code := by decide
      exact hall _ (List.mem_map_of_mem hsymbol)
    exact Symbol.encoded_flatValue habsolute hkind
  have ha : Document.ofPath "/a.dart" = .ok ⟨"/a.dart", "file:///a.dart"⟩ := by
    have huri : Uri.ofFile? "/a.dart" = some "file:///a.dart" := by decide +kernel
    rw [Document.ofPath, huri]
  -- the session once the file is open
  let t : Session Unit :=
    { s with atHand := 1, sent := [Message.opening "dart" "file:///a.dart" "class A"] }
  have hopen : Sample.unplacedClient.openDocument "/a.dart" s =
      (.ok ⟨"/a.dart", "file:///a.dart"⟩, t) := by
    have hread : Sample.unplacedClient.files.readText "/a.dart" = .ok "class A" :=
      Sample.readText_a
    simp only [openDocument, ha, hread]
    rfl
  obtain ⟨u, hanswer⟩ := Sample.request_unplaced (s := t) rfl rfl (by decide)
    "textDocument/documentSymbol" (.object [Message.textDocument "file:///a.dart"])
  have hfailed := hscan [] [] ⟨"/a.dart", "/"⟩ s t u _ _ hopen hanswer Sample.isFlawed_unplaced
  exact ⟨(htree _ _ _ (Symbol.encoded_nestedValues nestedOutline [] hkinds)).1, hlist _ _ hflat,
    hflawed _ Sample.isFlawed_unplaced, hfailed.outcome, hfailed.queries⟩

end DeadSymbols
