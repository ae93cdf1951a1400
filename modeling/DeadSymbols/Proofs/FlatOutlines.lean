import Mathlib.Data.List.Forall2
import DeadSymbols.Proofs.Encoding
import DeadSymbols.Proofs.Verdicts
import DeadSymbols.Session.Client

/-!
# Flat outlines and trees

A server may list the symbols of an outline one after another instead of nesting them. What is
inside a private symbol is left out of a scan only if the outline is nested; in a list each symbol
stands for itself.

* `Symbol.listed`: the symbols of an outline as a list without nesting.
* `Outline.ofJson_flat`, `Outline.ofJson_listed`: what is decoded from values that encode a list.
* `Config.queried_listed`: which symbols of a list are asked about.
* `scan_answered`: the scan of a file by a service that has a count for each place.
* `flat_scan_agrees`: a scan of the list against a scan of the tree.
-/

namespace DeadSymbols

open Json

/-! ## Lists of symbols -/

namespace Symbol

/-- A symbol without those inside it. -/
def alone (s : Symbol) : Symbol := .node s.name s.kind s.anchor []

@[simp] theorem name_alone (s : Symbol) : s.alone.name = s.name := rfl

@[simp] theorem kind_alone (s : Symbol) : s.alone.kind = s.kind := rfl

@[simp] theorem children_alone (s : Symbol) : s.alone.children = [] := rfl

/-- The symbols of an outline in preorder, each without those inside it. -/
def listed (outline : List Symbol) : List Symbol :=
  (preorderAll [] outline).map fun place => place.1.alone

/-- The values that encode a symbol of a list, whatever it holds inside. The place of the symbol is
the start of its location. Further members are passed over. -/
def FlatEncodedAs (s : Symbol) (v : Json) : Prop :=
  v.get? "name" = some (.text s.name) ∧
    v.get? "kind" = some (.integer s.kind.code) ∧ IsInt32 s.kind.code ∧
    MayHold (v.get? "tags") (fun w => ∃ tags : List Int, w = .array (tags.map .integer) ∧
      ∀ tag ∈ tags, IsInt32 tag) ∧
    MayHold (v.get? "deprecated") (fun w => ∃ b, w = .bool b) ∧
    (∃ w location, v.get? "location" = some w ∧ Location.EncodedAs location w ∧
      location.range.start = s.anchor) ∧
    MayHold (v.get? "containerName") (fun w => ∃ name, w = .text name)

theorem ofFlat_flatEncoded {s : Symbol} {v : Json} (h : s.FlatEncodedAs v) :
    ofFlat? v.normal = some s.alone := by
  obtain ⟨hname, hkind, hint, htags, hdeprecated, ⟨w, location, hlocation, hw, hanchor⟩,
    hcontainer⟩ := h
  obtain ⟨ms, rfl⟩ := object_of_get hname
  obtain ⟨fields, hfields, hlookup⟩ := record_normal
    ["name", "kind", "tags", "deprecated", "location", "containerName"] false ms
  -- the fields that have to be there
  have h1 := required_eq (hlookup "name" (by simp)) hname asText?
  have h2 := required_eq (hlookup "kind" (by simp)) hkind SymbolKind.ofJson?
  have h3 := required_eq (hlookup "location" (by simp)) hlocation Location.ofJson?
  rw [Location.ofJson_encoded hw] at h3
  have hcode : SymbolKind.ofJson? (Json.integer s.kind.code).normal = some s.kind := by
    simp only [normal, SymbolKind.ofJson?, asInt32_integer hint, Option.map_some]
  rw [hcode] at h2
  -- the fields that may be missing, of which nothing is kept
  obtain ⟨tags, h4⟩ := optional_mayHold (hlookup "tags" (by simp)) htags readTags?
    (by rintro w ⟨tags, rfl, ht⟩; exact ⟨tags, readTags_integers ht⟩)
  obtain ⟨deprecated, h5⟩ := optional_mayHold (hlookup "deprecated" (by simp)) hdeprecated
    asBool? (by rintro w ⟨b, rfl⟩; exact ⟨b, rfl⟩)
  obtain ⟨container, h6⟩ := optional_mayHold (hlookup "containerName" (by simp)) hcontainer
    asText? (by rintro w ⟨name, rfl⟩; exact ⟨name, rfl⟩)
  simp only [ofFlat?, hfields, bind, Option.bind, h1, h2, h3, h4, h5, h6, hanchor]
  rfl

end Symbol

theorem Symbol.mapM_ofFlat {symbols : List Symbol} {vs : List Json}
    (h : List.Forall₂ Symbol.FlatEncodedAs symbols vs) :
    (vs.map normal).mapM ofFlat? = some (symbols.map Symbol.alone) := by
  induction h with
  | nil => rfl
  | cons hv _ ih => exact mapM_cons_some (ofFlat_flatEncoded hv) ih

/-- **A list of symbols is decoded** from the values that encode them one after another. -/
theorem Outline.ofJson_flat {symbols : List Symbol} {vs : List Json}
    (h : List.Forall₂ Symbol.FlatEncodedAs symbols vs) :
    Outline.ofJson? (Json.array vs).normal = some (some ⟨.flat, symbols.map Symbol.alone⟩) := by
  rw [normal, normalElements_eq, Outline.ofJson?, nullable_array, Outline.ofAnswer?, Json.list?,
    Symbol.mapM_ofFlat h]
  rfl

/-- And so is the list of the symbols of an outline. -/
theorem Outline.ofJson_listed {outline : List Symbol} {vs : List Json}
    (h : List.Forall₂ (fun place v => place.1.FlatEncodedAs v)
      (Symbol.preorderAll [] outline) vs) :
    Outline.ofJson? (Json.array vs).normal = some (some ⟨.flat, Symbol.listed outline⟩) := by
  rw [Outline.ofJson_flat (List.forall₂_map_left_iff.2 h), List.map_map]
  rfl

namespace Config

variable {config : Config}

/-- The symbols of an outline that are of a target kind and not private, in preorder, each with the
symbols around it. -/
def suspects (config : Config) (outline : List Symbol) : List (Symbol × List Symbol) :=
  (Symbol.preorderAll [] outline).filter fun place =>
    config.isTargetKind place.1.kind.name && !config.isPrivate place.1.name

/-- Whether a symbol is inside a private one. -/
def isSheltered (config : Config) (place : Symbol × List Symbol) : Bool :=
  place.2.any fun s => config.isPrivate s.name

/-- Of symbols with nothing inside them each is asked about for itself. -/
theorem queried_map_alone (symbols : List Symbol) :
    config.queried (symbols.map Symbol.alone) =
      (symbols.filter fun s => config.isTargetKind s.kind.name && !config.isPrivate s.name).map
        Symbol.alone := by
  induction symbols with
  | nil => rfl
  | cons s rest ih =>
    rw [List.map_cons, queried_cons, List.filter_cons]
    simp only [visit, Symbol.name_alone, Symbol.kind_alone, Symbol.children_alone,
      List.nil_append, ih]
    -- private, of a target kind, of another kind
    by_cases hp : config.isPrivate s.name = true
    · simp [hp]
    · by_cases ht : config.isTargetKind s.kind.name = true <;> simp [hp, ht]

/-- In a list all suspects are asked about. -/
theorem queried_listed (outline : List Symbol) :
    config.queried (Symbol.listed outline) =
      (config.suspects outline).map fun place => place.1.alone := by
  have hlisted : Symbol.listed outline =
      ((Symbol.preorderAll [] outline).map Prod.fst).map Symbol.alone := by
    rw [List.map_map]
    rfl
  rw [hlisted, queried_map_alone, List.filter_map, List.map_map]
  rfl

/-- In a tree the suspects inside private symbols are left out. -/
theorem queried_eq (outline : List Symbol) :
    config.queried outline =
      ((config.suspects outline).filter fun place => !config.isSheltered place).map Prod.fst := by
  rw [queried, suspects, List.filter_filter]
  refine congrArg (List.map Prod.fst) (List.filter_congr fun place _ => ?_)
  simp only [isQueried, isSheltered, List.any_cons, Bool.not_or, Bool.and_comm, Bool.and_assoc,
    Bool.and_left_comm]

/-- If everything inside private symbols is private, no suspect is inside one. -/
theorem not_isSheltered {outline : List Symbol}
    (hprivate : ∀ place ∈ Symbol.preorderAll [] outline,
      config.isSheltered place = true → config.isPrivate place.1.name = true) :
    ∀ place ∈ config.suspects outline, (!config.isSheltered place) = true := by
  intro place hplace
  obtain ⟨hmem, hsuspect⟩ := List.mem_filter.1 hplace
  rw [Bool.and_eq_true, Bool.not_eq_true'] at hsuspect
  rw [Bool.not_eq_true', Bool.eq_false_iff]
  intro hsheltered
  rw [hprivate place hmem hsheltered] at hsuspect
  exact absurd hsuspect.2 (by decide)

end Config

/-! ## Services with a count for each place -/

/-- What a service answers about one file in the states that are `ready`: the outline that a value
holds, and a count for each place, whatever it was asked before. Nobody asks to stop. -/
structure Service.AnswersAbout {σ : Type} (service : Service σ) (ready : σ → Prop) (path : String)
    (document : Document) (value : Json) (counts : Position → Option Nat) : Prop where
  opening : ∀ s, ready s → ∃ t, service.openDocument path s = (.ok document, t) ∧ ready t
  outline : ∀ s, ready s → ∃ t, service.documentSymbols document s =
    ((Client.decoded Outline.ofJson? value.normal).map fun found => found.map (·.symbols), t) ∧
      ready t
  count : ∀ place s, ready s →
    ∃ t, service.references document place s = (.ok (counts place), t) ∧ ready t
  closing : ∀ s, ready s → ready (service.release document s).2
  running : ∀ s, ready s → service.cancelled s = false

/-- Whether an event is a query for references. -/
def Event.isQuery : Event → Bool
  | .references _ _ => true
  | _ => false

/-- The queries for references that a scan made. -/
def ScanRun.queries {σ : Type} (run : ScanRun σ) : List Event := run.events.filter Event.isQuery

/-- The symbols whose count is within the limit. -/
def Config.isReported (config : Config) (counts : Position → Option Nat) (symbol : Symbol) : Bool :=
  config.isUnreferenced ((counts symbol.anchor).getD 0)

section Answered

variable {σ : Type} {service : Service σ} {ready : σ → Prop} {path : String} {document : Document}
  {value : Json} {counts : Position → Option Nat}

/-- Every query of a round has its count. -/
theorem askAll_answered (h : service.AnswersAbout ready path document value counts)
    (places : List Position) {s : σ} (hs : ready s) :
    let round := service.askAll document places s
    round.counts = places.map counts ∧ round.fault = none ∧ ready round.state := by
  induction places generalizing s with
  | nil => exact ⟨rfl, rfl, hs⟩
  | cons place rest ih =>
    obtain ⟨t, hcount, ht⟩ := h.count place s hs
    obtain ⟨hcounts, hfault, hready⟩ := ih ht
    simp only [Service.askAll, hcount]
    exact ⟨congrArg (counts place :: ·) hcounts, hfault, hready⟩

/-- The findings among symbols all of which have their count. -/
theorem Config.reported_answered (config : Config) (file : String) (asked : List Symbol) :
    config.reported file asked (asked.map fun s => counts s.anchor) =
      (asked.filter (config.isReported counts)).map (Finding.ofSymbol · file) := by
  induction asked with
  | nil => rfl
  | cons s rest ih =>
    rw [List.filter_cons]
    simp only [Config.reported, List.map_cons, List.zip_cons_cons, List.flatMap_cons] at ih ⊢
    rw [ih, Config.findings, Config.isReported]
    split <;> simp

/-- How a walk goes on which every query has its count. -/
theorem walkDocument_answered (config : Config)
    (h : service.AnswersAbout ready path document value counts) {outline : Outline}
    (hvalue : Outline.ofJson? value.normal = some (some outline)) {s : σ} (hs : ready s) :
    let scan := walkDocument config service document s
    scan.status = .ok .scanned ∧
      scan.findings = ((config.queried outline.symbols).filter (config.isReported counts)).map
        (Finding.ofSymbol · document.path) ∧
      scan.events = .documentSymbols document.path ::
        (config.queried outline.symbols).map (fun symbol =>
          .references document.path symbol.anchor) ∧
      ready scan.state := by
  intro scan
  obtain ⟨t, houtline, ht⟩ := h.outline s hs
  rw [Client.decoded, hvalue] at houtline
  have hquiet : service.Undisturbed document
      ((config.queried outline.symbols).map Symbol.anchor) t :=
    fun n => h.running _ (askAll_answered h _ ht).2.2
  have hscan := walkDocument_eq houtline hquiet
  obtain ⟨hcounts, hfault, hready⟩ :=
    askAll_answered h ((config.queried outline.symbols).map Symbol.anchor) ht
  refine ⟨(congrArg FileScan.status hscan).trans (Round.status_of_none hfault), ?_, ?_,
    (congrArg FileScan.state hscan).symm ▸ hready⟩
  · refine (congrArg FileScan.findings hscan).trans ?_
    simp only [hcounts, List.map_map, Function.comp_def, Config.reported_answered]
  · refine (congrArg FileScan.events hscan).trans ?_
    simp only [hcounts, List.length_map]
    rw [List.take_of_length_le (Nat.le_succ _)]

/-- **The scan of a file with a count for each place** asks about the symbols of the outline that
are to be asked about, and finds those whose count is within the limit. -/
theorem scan_answered (config : Config) (base : String) (file : SourceFile)
    (h : service.AnswersAbout ready file.path document value counts) {outline : Outline}
    (hvalue : Outline.ofJson? value.normal = some (some outline)) {s : σ} (hs : ready s) :
    let run := scan config base service [file] s
    let asked := config.queried outline.symbols
    let findings := (asked.filter (config.isReported counts)).map
      (Finding.ofSymbol · document.path)
    run.outcome = { findings := findings, filesTotal := 1, filesScanned := 1 } ∧
      run.notices = [.scanned 1 1 findings.length] ∧
      run.events = [.start 1, .advance 1 s!"[{1}/{1}] Scanning {file.relativeTo base}",
          .openDocument file.path, .documentSymbols document.path] ++
        asked.map (fun symbol => .references document.path symbol.anchor) ++
        (if service.closeDocument.isSome then [.closeDocument document.path] else []) ++
        [.finish false findings.length] := by
  intro run asked findings
  obtain ⟨t, hopen, ht⟩ := h.opening s hs
  obtain ⟨hstatus, hfindings, hevents, hready⟩ := walkDocument_answered config h hvalue ht
  -- the file is opened, walked, and closed by a service that wants to be told
  have hone : (scanFile config service file.path s).status = .ok .scanned ∧
      (scanFile config service file.path s).findings = findings ∧
      (scanFile config service file.path s).events = .openDocument file.path ::
        .documentSymbols document.path ::
        (asked.map (fun symbol => .references document.path symbol.anchor) ++
          if service.closeDocument.isSome then [.closeDocument document.path] else []) := by
    simp only [scanFile, hopen, FileScan.after, FileScan.close, List.nil_append]
    cases service.closeDocument <;> simp [hstatus, hfindings, hevents, findings, asked]
  have hlast : service.cancelled (scanFile config service file.path s).state = false := by
    rw [(scanFile_opened config hopen).2]
    exact h.running _ (h.closing _ hready)
  obtain ⟨hstatus, hfindings, hevents⟩ := hone
  simp only [run, scan, List.length_singleton, ScanRun.after, scanFiles, h.running s hs, hstatus,
    hfindings, hevents, Outcome.count, failureNotices]
  simp [hlast]

/-- The queries of such a scan. -/
theorem queries_answered (config : Config) (base : String) (file : SourceFile)
    (h : service.AnswersAbout ready file.path document value counts) {outline : Outline}
    (hvalue : Outline.ofJson? value.normal = some (some outline)) {s : σ} (hs : ready s) :
    (scan config base service [file] s).queries =
      (config.queried outline.symbols).map fun symbol =>
        .references document.path symbol.anchor := by
  obtain ⟨-, -, hevents⟩ := scan_answered config base file h hvalue hs
  have hkept : ∀ event ∈ (config.queried outline.symbols).map fun symbol =>
      Event.references document.path symbol.anchor, event.isQuery = true := by
    intro event hevent
    obtain ⟨symbol, -, rfl⟩ := List.mem_map.1 hevent
    rfl
  rw [ScanRun.queries, hevents, List.filter_append, List.filter_append, List.filter_append,
    List.filter_eq_self.2 hkept]
  cases service.closeDocument <;> simp [Event.isQuery]

end Answered

/-! ## The list against the tree -/

/-- What is kept of a list, in its order, and what is left out. -/
theorem keeps_filter {α β : Type} (f : α → β) (drops : α → Bool) (l : List α) :
    ((l.filter fun a => !drops a).map f).Sublist (l.map f) ∧
      (l.map f).Perm ((l.filter fun a => !drops a).map f ++ (l.filter drops).map f) := by
  refine ⟨List.filter_sublist.map f, ?_⟩
  rw [← List.map_append]
  exact ((List.perm_append_comm.trans (List.filter_append_perm drops l)).map f).symm

section Found

variable (config : Config) (counts : Position → Option Nat) (file : String) (outline : List Symbol)

/-- The findings in a tree among the suspects. -/
theorem found_tree :
    ((config.queried outline).filter (config.isReported counts)).map (Finding.ofSymbol · file) =
      (((config.suspects outline).filter fun place => config.isReported counts place.1).filter
        fun place => !config.isSheltered place).map fun place => .ofSymbol place.1 file := by
  rw [config.queried_eq, List.filter_map, List.map_map, List.filter_filter, List.filter_filter]
  refine congrArg (List.map fun place : Symbol × List Symbol => Finding.ofSymbol place.1 file)
    (List.filter_congr fun _ _ => ?_)
  exact Bool.and_comm _ _

/-- The findings in a list among the suspects. -/
theorem found_list :
    ((config.queried (Symbol.listed outline)).filter (config.isReported counts)).map
        (Finding.ofSymbol · file) =
      ((config.suspects outline).filter fun place => config.isReported counts place.1).map
        fun place => .ofSymbol place.1 file := by
  rw [config.queried_listed, List.filter_map, List.map_map]
  rfl

end Found

/-- **A flat outline is scanned like the tree that it lists, except inside private symbols.** Let
one server nest the symbols of an outline and another list them in preorder, and let both count the
references at a place alike. In the list every symbol of a target kind that is not private is asked
about; in the tree those inside private symbols are left out. That is the only difference between
the queries and between the findings, which stand in the same order. If all symbols inside private
ones are private themselves, the scans are the same. Both files count as scanned. -/
theorem flat_scan_agrees {σ τ : Type} (config : Config) (base : String) (file : SourceFile)
    (document : Document) (outline : List Symbol) (counts : Position → Option Nat)
    (side : Json → Prop) (nested flat : List Json)
    (hnested : Symbol.AllEncodedAs side outline nested)
    (hflat : List.Forall₂ (fun place v => place.1.FlatEncodedAs v)
      (Symbol.preorderAll [] outline) flat)
    (trees : Service σ) (lists : Service τ) (ready : σ → Prop) (ready' : τ → Prop)
    (htrees : trees.AnswersAbout ready file.path document (.array nested) counts)
    (hlists : lists.AnswersAbout ready' file.path document (.array flat) counts)
    (s : σ) (t : τ) (hs : ready s) (ht : ready' t) :
    let tree := scan config base trees [file] s
    let list := scan config base lists [file] t
    let asked := config.suspects outline
    let reported := asked.filter fun place => config.isReported counts place.1
    let query (place : Symbol × List Symbol) : Event :=
      .references document.path place.1.anchor
    let finding (place : Symbol × List Symbol) : Finding :=
      .ofSymbol place.1 document.path
    (list.queries = asked.map query ∧
        tree.queries = (asked.filter fun place => !config.isSheltered place).map query ∧
        tree.queries.Sublist list.queries ∧
        list.queries.Perm (tree.queries ++ (asked.filter config.isSheltered).map query)) ∧
      (list.outcome.findings = reported.map finding ∧
        tree.outcome.findings =
          (reported.filter fun place => !config.isSheltered place).map finding ∧
        tree.outcome.findings.Sublist list.outcome.findings ∧
        list.outcome.findings.Perm
          (tree.outcome.findings ++ (reported.filter config.isSheltered).map finding)) ∧
      ((∀ place ∈ Symbol.preorderAll [] outline,
          config.isSheltered place = true → config.isPrivate place.1.name = true) →
        tree.queries = list.queries ∧ tree.outcome = list.outcome ∧ tree.notices = list.notices ∧
          (trees.closeDocument.isSome = lists.closeDocument.isSome → tree.events = list.events)) ∧
      { tree.outcome with findings := [] } = { filesTotal := 1, filesScanned := 1 } ∧
      { list.outcome with findings := [] } = { filesTotal := 1, filesScanned := 1 } := by
  intro tree list asked reported query finding
  obtain ⟨shape, htree⟩ := Outline.ofJson_encoded hnested
  have hlist := Outline.ofJson_listed hflat
  obtain ⟨htreeOutcome, htreeNotices, htreeEvents⟩ :=
    scan_answered config base file htrees htree hs
  obtain ⟨hlistOutcome, hlistNotices, hlistEvents⟩ :=
    scan_answered config base file hlists hlist ht
  have htreeScan := queries_answered config base file htrees htree hs
  have hlistScan := queries_answered config base file hlists hlist ht
  have htreeFound := found_tree config counts document.path outline
  have hlistFound := found_list config counts document.path outline
  have htreeQueries : tree.queries =
      (asked.filter fun place => !config.isSheltered place).map query := by
    refine htreeScan.trans ?_
    rw [config.queried_eq, List.map_map]
    rfl
  have hlistQueries : list.queries = asked.map query := by
    refine hlistScan.trans ?_
    rw [config.queried_listed, List.map_map]
    rfl
  have htreeFindings := (congrArg Outcome.findings htreeOutcome).trans htreeFound
  have hlistFindings := (congrArg Outcome.findings hlistOutcome).trans hlistFound
  have hqueries := keeps_filter query config.isSheltered asked
  have hfindings := keeps_filter finding config.isSheltered reported
  rw [← htreeQueries, ← hlistQueries] at hqueries
  rw [← htreeFindings, ← hlistFindings] at hfindings
  refine ⟨⟨hlistQueries, htreeQueries, hqueries⟩, ⟨hlistFindings, htreeFindings, hfindings⟩, ?_,
    congrArg (fun outcome : Outcome => { outcome with findings := [] }) htreeOutcome,
    congrArg (fun outcome : Outcome => { outcome with findings := [] }) hlistOutcome⟩
  intro hprivate
  -- nothing is left out of the tree
  have hopen := Config.not_isSheltered hprivate
  rw [List.filter_eq_self.2 hopen] at htreeQueries
  rw [List.filter_eq_self.2 fun place hplace => hopen place (List.mem_of_mem_filter hplace)]
    at htreeFound
  have hsame := htreeQueries.trans hlistQueries.symm
  have hfound := htreeFound.trans hlistFound.symm
  refine ⟨hsame, ?_, ?_, fun hclosing => ?_⟩
  · rw [htreeOutcome, hlistOutcome, hfound]
  · rw [htreeNotices, hlistNotices, hfound]
  · rw [htreeEvents, hlistEvents, hfound, hclosing, htreeScan.symm.trans (hsame.trans hlistScan)]

/-! ## Both forms of an outline -/

/-- A place as a range. -/
def Position.spot (p : Position) : Json :=
  .object [("start", Message.position p), ("end", Message.position p)]

theorem Position.spot_encoded (p : Position) : Range.EncodedAs ⟨p, p⟩ p.spot :=
  ⟨⟨_, rfl, rfl, rfl⟩, _, rfl, rfl, rfl⟩

mutual

/-- A symbol as a value in which the symbols inside it are nested. -/
def Symbol.nestedValue : Symbol → Json
  | .node name kind anchor children => .object [("name", .text name), ("kind", .integer kind.code),
      ("range", anchor.spot), ("selectionRange", anchor.spot),
      ("children", .array (Symbol.nestedValues children))]
termination_by structural s => s

/-- Symbols as values, one after another. -/
def Symbol.nestedValues : List Symbol → List Json
  | [] => []
  | s :: rest => s.nestedValue :: Symbol.nestedValues rest
termination_by structural ss => ss

end

/-- A symbol of a document as a value without the symbols inside it. -/
def Symbol.flatValue (uri : String) (s : Symbol) : Json :=
  .object [("name", .text s.name), ("kind", .integer s.kind.code),
    ("location", .object [("uri", .text uri), ("range", s.anchor.spot)])]

theorem mayHold_none (good : Json → Prop) : MayHold none good := fun _ h => by cases h

mutual

theorem Symbol.encoded_nestedValue : ∀ (s : Symbol) (around : List Symbol),
    (∀ place ∈ s.preorder around, IsInt32 place.1.kind.code) →
      s.EncodedAs (fun _ => True) s.nestedValue
  | .node name kind anchor children, around, h => by
    have hhead := h (.node name kind anchor children, around) List.mem_cons_self
    refine ⟨⟨_, rfl, ?_, fun _ _ => .inr trivial⟩, rfl, rfl, hhead, mayHold_none _, mayHold_none _,
      mayHold_none _, ⟨_, _, rfl, anchor.spot_encoded⟩, ⟨_, _, rfl, anchor.spot_encoded⟩, rfl,
      .inr ⟨_, rfl, ?_⟩⟩
    · show ["name", "kind", "range", "selectionRange", "children"].Nodup
      decide
    · exact Symbol.encoded_nestedValues children _ fun place hplace =>
        h place (List.mem_cons_of_mem _ hplace)

/-- Every outline whose kinds are numbers of 32 bits has a nested form. -/
theorem Symbol.encoded_nestedValues : ∀ (outline around : List Symbol),
    (∀ place ∈ Symbol.preorderAll around outline, IsInt32 place.1.kind.code) →
      Symbol.AllEncodedAs (fun _ => True) outline (Symbol.nestedValues outline)
  | [], _, _ => rfl
  | s :: rest, around, h =>
    ⟨_, _, rfl,
      Symbol.encoded_nestedValue s around fun place hplace =>
        h place (List.mem_append_left _ hplace),
      Symbol.encoded_nestedValues rest around fun place hplace =>
        h place (List.mem_append_right _ hplace)⟩

end

theorem Symbol.encoded_flatValue {uri : String} (huri : Uri.isAbsolute uri = true) {s : Symbol}
    (h : IsInt32 s.kind.code) : s.FlatEncodedAs (s.flatValue uri) :=
  ⟨rfl, rfl, h, mayHold_none _, mayHold_none _, ⟨_, ⟨uri, ⟨s.anchor, s.anchor⟩⟩, rfl,
    ⟨rfl, huri, _, rfl, s.anchor.spot_encoded⟩, rfl⟩, mayHold_none _⟩

/-- And it has a flat form. -/
theorem Symbol.encoded_flatValues {uri : String} (huri : Uri.isAbsolute uri = true)
    {outline : List Symbol}
    (h : ∀ place ∈ Symbol.preorderAll [] outline, IsInt32 place.1.kind.code) :
    List.Forall₂ (fun place v => place.1.FlatEncodedAs v) (Symbol.preorderAll [] outline)
      ((Symbol.preorderAll [] outline).map fun place => place.1.flatValue uri) := by
  rw [List.forall₂_map_right_iff, List.forall₂_same]
  intro place hplace
  exact Symbol.encoded_flatValue huri (h place hplace)

/-- A table that answers about every file alike. -/
theorem table_answersAbout {path : String} {document : Document} (value : Json)
    (counts : Position → Option Nat) (releases : Bool)
    (hdocument : Document.ofPath path = .ok document) :
    (table (fun _ =>
      { outline := (Client.decoded Outline.ofJson? value.normal).map fun found =>
          found.map (·.symbols)
        references := fun place => .ok (counts place) }) releases).AnswersAbout
      CallCount.IsFree path document value counts where
  opening s hs := ⟨s.next, Prod.ext hdocument rfl, hs.next⟩
  outline s hs := ⟨s.next, rfl, hs.next⟩
  count _ s hs := ⟨s.next, rfl, hs.next⟩
  closing _ hs := release_table _ releases document hs
  running _ hs := hs.2

instance (n : Int) : Decidable (IsInt32 n) := inferInstanceAs (Decidable (_ ∧ _))

/-- The field inside the private method is found in the list only. -/
theorem flat_scan_agrees_nested :
    let nested := Symbol.nestedValues nestedOutline
    let flat := (Symbol.preorderAll [] nestedOutline).map fun place =>
      place.1.flatValue "file:///a.dart"
    let answers (value : Json) : FileAnswers :=
      { outline := (Client.decoded Outline.ofJson? value.normal).map fun found =>
          found.map (·.symbols)
        references := fun _ => .ok (some 1) }
    let run (value : Json) :=
      scan {} "/" (table (fun _ => answers value) true) [⟨"/a.dart", "/"⟩] {}
    Symbol.AllEncodedAs (fun _ => True) nestedOutline nested ∧
      List.Forall₂ (fun place v => place.1.FlatEncodedAs v)
        (Symbol.preorderAll [] nestedOutline) flat ∧
      (run (.array nested)).outcome.findings.map Finding.name = ["build", "x", "z"] ∧
      (run (.array flat)).outcome.findings.map Finding.name = ["build", "x", "y", "z"] := by
  intro nested flat answers run
  have hkinds : ∀ place ∈ Symbol.preorderAll [] nestedOutline, IsInt32 place.1.kind.code := by
    decide
  have hnested := Symbol.encoded_nestedValues nestedOutline [] hkinds
  have habsolute : Uri.isAbsolute "file:///a.dart" = true := by decide +kernel
  have hflat := Symbol.encoded_flatValues habsolute hkinds
  have hdocument : Document.ofPath "/a.dart" = .ok ⟨"/a.dart", "file:///a.dart"⟩ := by
    have huri : Uri.ofFile? "/a.dart" = some "file:///a.dart" := by decide +kernel
    rw [Document.ofPath, huri]
  obtain ⟨-, ⟨hlist, htree, -⟩, -⟩ := flat_scan_agrees {} "/" ⟨"/a.dart", "/"⟩ _ nestedOutline
    (fun _ => some 1) _ nested flat hnested hflat _ _ _ _
    (table_answersAbout (.array nested) (fun _ => some 1) true hdocument)
    (table_answersAbout (.array flat) (fun _ => some 1) true hdocument) {} {} ⟨rfl, rfl⟩ ⟨rfl, rfl⟩
  refine ⟨hnested, hflat, ?_, ?_⟩
  · exact (congrArg (List.map Finding.name) htree).trans (by decide +kernel)
  · exact (congrArg (List.map Finding.name) hlist).trans (by decide +kernel)

end DeadSymbols
