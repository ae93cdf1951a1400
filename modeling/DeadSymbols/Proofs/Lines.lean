import DeadSymbols.Proofs.Bracketing
import DeadSymbols.Proofs.Encoding
import DeadSymbols.Proofs.Replay
import DeadSymbols.Report.Document
import DeadSymbols.Session.Client

/-!
# Lines in reports

A server gives the lines of symbols counted from zero, and a report counts them from one, both in
32 bits. So the line in a report is exact for all lines but the last one that 32 bits can hold.

* `OutlineShape.line?`: the number that an element of an outline gives for the line of its symbol.
* `Symbol.of_ofNested`: what was read of a decoded symbol of a tree.
* `Outline.lines_ofJson`: decoding an outline leaves the lines as the server gave them.
* `Finding.toNat_line`: the line of a finding, counted from one.
* `FileEnds.sources`: where the findings in a file come from.
* `Client.scan_lines`: the lines in the findings of a scan, and in the reports about them.
-/

namespace DeadSymbols

open Json

/-! ## Lines in answers -/

namespace Json

/-- The values inside a value, itself included. -/
inductive Holds : Json → Json → Prop
  | refl (v : Json) : Holds v v
  | element {vs : List Json} {v w : Json} (hv : v ∈ vs) (h : Holds v w) : Holds (.array vs) w
  | member {ms : List (String × Json)} {m : String × Json} {w : Json} (hm : m ∈ ms)
      (h : Holds m.2 w) : Holds (.object ms) w

/-- A field of a record. -/
def field? (names : List String) (name : String) (v : Json) : Option Json :=
  (v.record? names false).bind fun fields => fields.lookup name

theorem Holds.trans {v w u : Json} (h : v.Holds w) (h' : w.Holds u) : v.Holds u := by
  induction h with
  | refl v => exact h'
  | element hv _ ih => exact .element hv (ih h')
  | member hm _ ih => exact .member hm (ih h')

/-- A field of a record is inside it. -/
theorem holds_of_lookup {names : List String} {mayEndEarly : Bool} {name : String} {v w : Json}
    {fields : Fields} (hfields : v.record? names mayEndEarly = some fields)
    (h : fields.lookup name = some w) : v.Holds w := by
  have hmem : (name, w) ∈ fields := by
    obtain ⟨before, after, rfl, -⟩ := List.lookup_eq_some_iff.1 h
    simp
  cases v with
  | object ms =>
    simp only [record?] at hfields
    split at hfields
    · rw [← Option.some.inj hfields] at hmem
      exact .member ((List.mem_filter.1 hmem).1) (.refl w)
    · cases hfields
  | array vs =>
    simp only [record?] at hfields
    split at hfields
    · rw [← Option.some.inj hfields] at hmem
      exact .element (List.of_mem_zip hmem).2 (.refl w)
    · cases hfields
  | _ => cases hfields

/-- What is read as an element of a list is inside the list. -/
theorem holds_of_list {α : Type} {read : Json → Option α} {v : Json} {as : List α}
    (h : list? read v = some as) : ∀ a ∈ as, ∃ w, v.Holds w ∧ read w = some a := by
  cases v with
  | array vs =>
    have hall : ∀ (vs : List Json) (as : List α), vs.mapM read = some as →
        ∀ a ∈ as, ∃ w ∈ vs, read w = some a := by
      intro vs
      induction vs with
      | nil =>
        intro as h
        cases h
        exact fun a ha => absurd ha List.not_mem_nil
      | cons v rest ih =>
        intro as h
        rw [List.mapM_cons] at h
        obtain ⟨b, hb, h⟩ := Option.bind_eq_some_iff.1 h
        obtain ⟨bs, hbs, h⟩ := Option.bind_eq_some_iff.1 h
        cases h
        refine List.forall_mem_cons.2 ⟨⟨v, List.mem_cons_self, hb⟩, fun a ha => ?_⟩
        obtain ⟨w, hw, hread⟩ := ih bs hbs a ha
        exact ⟨w, List.mem_cons_of_mem _ hw, hread⟩
    intro a ha
    obtain ⟨w, hw, hread⟩ := hall vs as h a ha
    exact ⟨w, .element hw (.refl w), hread⟩
  | _ => cases h

/-- A required field that is read is there. -/
theorem field_of_required {α : Type} {names : List String} {name : String} {v : Json}
    {fields : Fields} {read : Json → Option α} {a : α}
    (hfields : v.record? names false = some fields)
    (h : required? fields name read = some a) :
    ∃ w, v.field? names name = some w ∧ read w = some a := by
  obtain ⟨w, hw, hread⟩ := Option.bind_eq_some_iff.1 h
  exact ⟨w, by rw [field?, hfields]; exact hw, hread⟩

/-- Exactly the numbers of 32 bits are read, each as it is. -/
theorem asUInt32_eq_some {v : Json} {n : UInt32} :
    asUInt32? v = some n ↔ v = .integer n.toNat := by
  refine ⟨fun h => ?_, fun h => h ▸ asUInt32_toNat n⟩
  obtain ⟨k, hk, rfl⟩ := Option.map_eq_some_iff.1 h
  cases v with
  | integer m =>
    simp only [asBetween?] at hk
    split at hk
    · rename_i hrange
      rw [Bool.and_eq_true, decide_eq_true_eq, decide_eq_true_eq] at hrange
      have hlt : k.toNat < 0x100000000 := by
        rw [← Option.some.inj hk]
        omega
      rw [UInt32.toNat_ofNat_of_lt' hlt, ← Option.some.inj hk, Int.toNat_of_nonneg hrange.1]
    · cases hk
  | _ => cases hk

end Json

/-- The number that a range gives for the line of its start. -/
def Range.startLine? (v : Json) : Option Json :=
  (v.field? ["start", "end"] "start").bind fun place => place.field? ["line", "character"] "line"

/-- The number that an element of an outline gives for the line of its symbol: that of the start of
its location in a flat outline, and that of the start of its name in a nested one. -/
def OutlineShape.line? (v : Json) : OutlineShape → Option Json
  | .flat => do
    let location ← v.field?
      ["name", "kind", "tags", "deprecated", "location", "containerName"] "location"
    let range ← location.field? ["uri", "range"] "range"
    Range.startLine? range
  | .nested => do
    let selection ← v.field? ["name", "detail", "kind", "tags", "deprecated", "range",
      "selectionRange", "children"] "selectionRange"
    Range.startLine? selection

theorem Position.line_of_ofJson {v : Json} {p : Position} (h : Position.ofJson? v = some p) :
    v.field? ["line", "character"] "line" = some (.integer p.line.toNat) := by
  obtain ⟨fields, hfields, h⟩ := Option.bind_eq_some_iff.1 h
  obtain ⟨line, hline, h⟩ := Option.bind_eq_some_iff.1 h
  obtain ⟨character, -, h⟩ := Option.bind_eq_some_iff.1 h
  cases h
  obtain ⟨w, hw, hread⟩ := field_of_required hfields hline
  rw [hw, asUInt32_eq_some.1 hread]

theorem Range.startLine_of_ofJson {v : Json} {range : Range} (h : Range.ofJson? v = some range) :
    Range.startLine? v = some (.integer range.start.line.toNat) := by
  obtain ⟨fields, hfields, h⟩ := Option.bind_eq_some_iff.1 h
  obtain ⟨start, hstart, h⟩ := Option.bind_eq_some_iff.1 h
  obtain ⟨stop, -, h⟩ := Option.bind_eq_some_iff.1 h
  cases h
  obtain ⟨w, hw, hread⟩ := field_of_required hfields hstart
  rw [startLine?, hw]
  exact Position.line_of_ofJson hread

theorem Location.range_of_ofJson {v : Json} {location : Location}
    (h : Location.ofJson? v = some location) :
    ∃ range, v.field? ["uri", "range"] "range" = some range ∧
      Range.ofJson? range = some location.range := by
  obtain ⟨fields, hfields, h⟩ := Option.bind_eq_some_iff.1 h
  obtain ⟨uri, -, h⟩ := Option.bind_eq_some_iff.1 h
  obtain ⟨range, hrange, h⟩ := Option.bind_eq_some_iff.1 h
  cases h
  exact field_of_required hfields hrange

namespace Symbol

/-- A symbol of a flat outline has the line that is given for it, and no symbols inside it. -/
theorem line_of_ofFlat {v : Json} {s : Symbol} (h : ofFlat? v = some s) :
    OutlineShape.flat.line? v = some (.integer s.anchor.line.toNat) ∧ s.children = [] := by
  obtain ⟨fields, hfields, h⟩ := Option.bind_eq_some_iff.1 h
  obtain ⟨name, -, h⟩ := Option.bind_eq_some_iff.1 h
  obtain ⟨kind, -, h⟩ := Option.bind_eq_some_iff.1 h
  obtain ⟨tags, -, h⟩ := Option.bind_eq_some_iff.1 h
  obtain ⟨deprecated, -, h⟩ := Option.bind_eq_some_iff.1 h
  obtain ⟨location, hlocation, h⟩ := Option.bind_eq_some_iff.1 h
  obtain ⟨container, -, h⟩ := Option.bind_eq_some_iff.1 h
  cases h
  obtain ⟨w, hw, hread⟩ := field_of_required hfields hlocation
  obtain ⟨range, hrange, hreadRange⟩ := Location.range_of_ofJson hread
  have hline := Range.startLine_of_ofJson hreadRange
  refine ⟨?_, rfl⟩
  simp only [OutlineShape.line?, hw, hrange, bind, Option.bind]
  exact hline

/-- The fields of a symbol of a tree. -/
def fieldNames : List String :=
  ["name", "detail", "kind", "tags", "deprecated", "range", "selectionRange", "children"]

/-- **A decoded symbol of a tree** has its name, its kind and its place from fields that are there,
and the symbols inside it from a list with one level of fuel less, or there are none. -/
theorem of_ofNested {fuel : Nat} {v : Json} {s : Symbol} (h : ofNested? (fuel + 1) v = some s) :
    ∃ fields name kind range selection children, v.record? fieldNames false = some fields ∧
      required? fields "name" asText? = some name ∧
      required? fields "kind" SymbolKind.ofJson? = some kind ∧
      required? fields "range" Range.ofJson? = some range ∧
      required? fields "selectionRange" Range.ofJson? = some selection ∧
      optional? fields "children" (Json.list? (ofNested? fuel)) = some children ∧
      s = .node name kind selection.start (children.getD []) := by
  obtain ⟨fields, hfields, h⟩ := Option.bind_eq_some_iff.1 h
  obtain ⟨name, hname, h⟩ := Option.bind_eq_some_iff.1 h
  obtain ⟨detail, -, h⟩ := Option.bind_eq_some_iff.1 h
  obtain ⟨kind, hkind, h⟩ := Option.bind_eq_some_iff.1 h
  obtain ⟨tags, -, h⟩ := Option.bind_eq_some_iff.1 h
  obtain ⟨deprecated, -, h⟩ := Option.bind_eq_some_iff.1 h
  obtain ⟨range, hrange, h⟩ := Option.bind_eq_some_iff.1 h
  obtain ⟨selection, hselection, h⟩ := Option.bind_eq_some_iff.1 h
  obtain ⟨children, hchildren, h⟩ := Option.bind_eq_some_iff.1 h
  cases h
  exact ⟨fields, name, kind, range, selection, children, hfields, hname, hkind, hrange, hselection,
    hchildren, rfl⟩

/-- A symbol of a nested outline has the line that is given for it, and the symbols inside it are
read from inside its value. -/
theorem line_of_ofNested {fuel : Nat} {v : Json} {s : Symbol}
    (h : ofNested? (fuel + 1) v = some s) :
    OutlineShape.nested.line? v = some (.integer s.anchor.line.toNat) ∧
      ∀ child ∈ s.children, ∃ w, v.Holds w ∧ ofNested? fuel w = some child := by
  obtain ⟨fields, name, kind, range, selection, children, hfields, -, -, -, hselection, hchildren,
    rfl⟩ := of_ofNested h
  refine ⟨?_, ?_⟩
  · obtain ⟨w, hw, hread⟩ := field_of_required hfields hselection
    unfold fieldNames at hw
    have hline := Range.startLine_of_ofJson hread
    simp only [OutlineShape.line?, hw, bind, Option.bind]
    exact hline
  · intro child hchild
    cases children with
    | none => exact absurd hchild List.not_mem_nil
    | some children =>
      -- the field is there, and not null
      unfold optional? at hchildren
      split at hchildren
      · cases hchildren
      · cases hchildren
      · rename_i w hnull hlookup
        obtain ⟨found, hfound, hsame⟩ := Option.map_eq_some_iff.1 hchildren
        cases hsame
        obtain ⟨u, hu, hread⟩ := holds_of_list hfound child hchild
        exact ⟨u, (holds_of_lookup hfields hlookup).trans hu, hread⟩

theorem mem_preorderAll {place : Symbol × List Symbol} {around symbols : List Symbol}
    (h : place ∈ preorderAll around symbols) : ∃ s ∈ symbols, place ∈ s.preorder around := by
  induction symbols with
  | nil => cases h
  | cons s rest ih =>
    rw [preorderAll] at h
    rcases List.mem_append.1 h with h | h
    · exact ⟨s, List.mem_cons_self, h⟩
    · obtain ⟨t, ht, h⟩ := ih h
      exact ⟨t, List.mem_cons_of_mem _ ht, h⟩

/-- So has every symbol inside it. -/
theorem lines_of_ofNested {fuel : Nat} : ∀ {v : Json} {s : Symbol} {around : List Symbol},
    ofNested? fuel v = some s → ∀ place ∈ s.preorder around, ∃ w, v.Holds w ∧
      OutlineShape.nested.line? w = some (.integer place.1.anchor.line.toNat) := by
  induction fuel with
  | zero => exact fun h => nomatch h
  | succ fuel ih =>
    intro v s around h place hplace
    obtain ⟨hline, hchildren⟩ := line_of_ofNested h
    rw [preorder_eq] at hplace
    rcases List.mem_cons.1 hplace with rfl | hplace
    · exact ⟨v, .refl v, hline⟩
    · obtain ⟨child, hchild, hplace⟩ := mem_preorderAll hplace
      obtain ⟨w, hw, hread⟩ := hchildren child hchild
      obtain ⟨u, hu, hgiven⟩ := ih hread place hplace
      exact ⟨u, hw.trans hu, hgiven⟩

end Symbol

/-- **Decoding an outline leaves the lines as they are**, in both forms and for all symbols. -/
theorem Outline.lines_ofJson {v : Json} {outline : Outline}
    (h : Outline.ofJson? v = some (some outline)) :
    ∀ place ∈ Symbol.preorderAll [] outline.symbols, ∃ w, v.Holds w ∧
      outline.shape.line? w = some (.integer place.1.anchor.line.toNat) := by
  have hanswer : Outline.ofAnswer? v = some outline := by
    unfold ofJson? nullable? at h
    split at h
    · cases h
    · obtain ⟨found, hfound, hsame⟩ := Option.map_eq_some_iff.1 h
      cases hsame
      exact hfound
  intro place hplace
  unfold ofAnswer? at hanswer
  split at hanswer
  · rename_i symbols hflat
    cases hanswer
    obtain ⟨s, hs, hplace⟩ := Symbol.mem_preorderAll hplace
    obtain ⟨w, hw, hread⟩ := holds_of_list hflat s hs
    obtain ⟨hline, hchildren⟩ := Symbol.line_of_ofFlat hread
    rw [Symbol.preorder_eq, hchildren] at hplace
    rw [List.mem_singleton.1 hplace]
    exact ⟨w, hw, hline⟩
  · obtain ⟨symbols, hnested, hsame⟩ := Option.map_eq_some_iff.1 hanswer
    cases hsame
    obtain ⟨s, hs, hplace⟩ := Symbol.mem_preorderAll hplace
    obtain ⟨w, hw, hread⟩ := holds_of_list hnested s hs
    obtain ⟨u, hu, hgiven⟩ := Symbol.lines_of_ofNested hread place hplace
    exact ⟨u, hw.trans hu, hgiven⟩

/-! ## Lines in findings -/

/-- **The line of a finding** is counted from one, in 32 bits. -/
theorem Finding.toNat_line (symbol : Symbol) (file : String) :
    (Finding.ofSymbol symbol file).line.toNat = (symbol.anchor.line.toNat + 1) % 0x100000000 := by
  rw [Finding.ofSymbol, UInt32.toNat_add]
  rfl

/-- A symbol of which a finding tells, and the path of its file. -/
structure Source where
  symbol : Symbol
  file : String

namespace Source

/-- The finding about the symbol. -/
def finding (source : Source) : Finding := .ofSymbol source.symbol source.file

/-- The line of the symbol, counted from one. -/
def line (source : Source) : Nat := source.symbol.anchor.line.toNat + 1

/-- The line of the log about the symbol. -/
def text (source : Source) : String :=
  s!"{source.file}:{source.line}: {source.symbol.name} ({source.symbol.kind.name})"

/-- The item about the symbol in a list to read. -/
def item (source : Source) : String :=
  let symbol := source.symbol
  s!"- {symbol.kind.name}: {symbol.name}\n  File: {source.file} (Line {source.line})\n\n"

/-- The entry about the symbol in a JSON report. -/
def entry (source : Source) : Json :=
  .object [("name", .text source.symbol.name), ("kind", .text source.symbol.kind.name),
    ("file", .text source.file), ("line", .integer source.line)]

/-- The symbol stands in an outline that was decoded from the answer to one of some calls, and its
line is the one that is given there. -/
def IsGiven (config : Config) (calls : List Call) (source : Source) : Prop :=
  ∃ document answer outline w,
    .documentSymbols document (.ok (some outline.symbols)) ∈ calls ∧
    source.file = document.path ∧ Outline.ofJson? answer = some (some outline) ∧
    source.symbol ∈ config.queried outline.symbols ∧ answer.Holds w ∧
    outline.shape.line? w = some (.integer source.symbol.anchor.line.toNat)

variable {source : Source}

theorem line_le : source.line ≤ 0x100000000 := source.symbol.anchor.line.toNat_lt

theorem toNat_line_finding : source.finding.line.toNat = source.line % 0x100000000 :=
  Finding.toNat_line source.symbol source.file

/-- The line is exact if 32 bits can hold it. -/
theorem toNat_line_of_lt (h : source.line < 0x100000000) :
    source.finding.line.toNat = source.line := by
  rw [toNat_line_finding, Nat.mod_eq_of_lt h]

/-- And otherwise it is zero. -/
theorem line_finding_eq_zero : source.finding.line = 0 ↔ source.line = 0x100000000 := by
  have hle : source.line ≤ 0x100000000 := line_le
  have hpos : 0 < source.line := Nat.succ_pos _
  rw [← UInt32.toNat_inj, toNat_line_finding, UInt32.toNat_zero]
  omega

theorem text_finding (h : source.line < 0x100000000) : source.finding.text = source.text := by
  rw [Finding.text, toNat_line_of_lt h]
  rfl

theorem item_finding (h : source.line < 0x100000000) : source.finding.item = source.item := by
  rw [Finding.item, toNat_line_of_lt h]
  rfl

theorem entry_finding (h : source.line < 0x100000000) : source.finding.entry = source.entry := by
  rw [Finding.entry, toNat_line_of_lt h]
  rfl

/-- Exact lines are in the order of the symbols. -/
theorem lt_iff_lt {a b : Source} (ha : a.line < 0x100000000) (hb : b.line < 0x100000000) :
    a.finding.line < b.finding.line ↔
      a.symbol.anchor.line < b.symbol.anchor.line := by
  rw [UInt32.lt_iff_toNat_lt, UInt32.lt_iff_toNat_lt, toNat_line_of_lt ha, toNat_line_of_lt hb]
  exact Nat.succ_lt_succ_iff

end Source

variable {config : Config} {σ : Type}

/-- The findings that queries about a document justify are about symbols that are still to be asked
about. -/
theorem justified_queries (config : Config) (document : Document) {queries : List Call} :
    ∀ pending : List Symbol,
      (∀ call ∈ queries, ∃ place answer, call = .references document place answer) →
      ∃ symbols : List Symbol, symbols.Sublist pending ∧
        config.justified pending queries = symbols.map (Finding.ofSymbol · document.path) := by
  induction queries with
  | nil => exact fun _ _ => ⟨[], List.nil_sublist _, rfl⟩
  | cons call rest ih =>
    intro pending h
    obtain ⟨⟨place, answer, rfl⟩, hrest⟩ := List.forall_mem_cons.1 h
    obtain ⟨symbols, hsub, hfound⟩ := ih pending.tail hrest
    rw [Config.justified, show config.pendingAfter _ _ = pending.tail from rfl, hfound]
    cases pending with
    | nil =>
      refine ⟨symbols, hsub, ?_⟩
      rcases answer with fault | count <;> rfl
    | cons symbol pending =>
      rcases answer with fault | count
      · exact ⟨symbols, hsub.cons _, rfl⟩
      · by_cases hcount : config.isUnreferenced (count.getD 0) = true
        · exact ⟨symbol :: symbols, hsub.cons_cons _, by
            simp [Config.justifiedBy, Config.findings, hcount]⟩
        · exact ⟨symbols, hsub.cons _, by simp [Config.justifiedBy, Config.findings, hcount]⟩

/-- The findings in a file are about symbols that are asked about in its outline. -/
theorem FileEnds.sources {path : String} {calls : List Call} {status : Except Fault FileStatus}
    (h : FileEnds config path calls status) :
    ∃ sources : List Source, config.justified [] calls = sources.map Source.finding ∧
      ∀ source ∈ sources, ∃ document outline,
        .documentSymbols document (.ok (some outline)) ∈ calls ∧ source.file = document.path ∧
        source.symbol ∈ config.queried outline := by
  cases h with
  | walked document outline queries status hwalk closed =>
    obtain ⟨symbols, hsub, hfound⟩ :=
      justified_queries config document (config.queried outline) hwalk.queries
    refine ⟨symbols.map fun symbol => ⟨symbol, document.path⟩, ?_, ?_⟩
    · have hclosed : ∀ pending, config.justified pending [.closeDocument document closed] = [] :=
        fun _ => rfl
      rw [Config.justified, Config.justified, Config.justified_append, hclosed, List.append_nil,
        List.map_map]
      exact hfound
    · intro source hsource
      obtain ⟨symbol, hsymbol, rfl⟩ := List.mem_map.1 hsource
      exact ⟨document, outline, by simp, rfl, hsub.subset hsymbol⟩
  | _ => exact ⟨[], rfl, fun source hsource => absurd hsource List.not_mem_nil⟩

/-- And so are those in files one after another. -/
theorem sources_records {records : List FileRecord}
    (h : ∀ r ∈ records, FileEnds config r.file.path r.calls r.status) :
    ∃ sources : List Source,
      config.justified [] (records.flatMap FileRecord.calls) = sources.map Source.finding ∧
      ∀ source ∈ sources, ∃ document outline,
        .documentSymbols document (.ok (some outline)) ∈ records.flatMap FileRecord.calls ∧
        source.file = document.path ∧ source.symbol ∈ config.queried outline := by
  induction records with
  | nil => exact ⟨[], rfl, fun source hsource => absurd hsource List.not_mem_nil⟩
  | cons r rest ih =>
    obtain ⟨hr, hrest⟩ := List.forall_mem_cons.1 h
    obtain ⟨xs, hxs, hgivenxs⟩ := hr.sources
    obtain ⟨ys, hys, hgivenys⟩ := ih hrest
    refine ⟨xs ++ ys, ?_, ?_⟩
    · rw [List.flatMap_cons, Config.justified_append, hr.fileCalls.pendingAfter, hxs, hys,
        List.map_append]
    · intro source hsource
      rw [List.flatMap_cons]
      rcases List.mem_append.1 hsource with hsource | hsource
      · obtain ⟨document, outline, hmem, hfile, hsymbol⟩ := hgivenxs source hsource
        exact ⟨document, outline, List.mem_append_left _ hmem, hfile, hsymbol⟩
      · obtain ⟨document, outline, hmem, hfile, hsymbol⟩ := hgivenys source hsource
        exact ⟨document, outline, List.mem_append_right _ hmem, hfile, hsymbol⟩

/-- Each of some calls has the answer that the service gives in some state. -/
theorem Service.Answers.gives {service : Service σ} {calls : List Call} {state : σ}
    (h : service.Answers state calls) : ∀ call ∈ calls, ∃ state, service.Gives state call := by
  induction calls generalizing state with
  | nil => exact fun call hcall => absurd hcall List.not_mem_nil
  | cons call rest ih => exact List.forall_mem_cons.2 ⟨⟨state, h.1⟩, ih h.2⟩

namespace Client

/-- An outline that a client gives is decoded from an answer. -/
theorem outline_decoded {client : Client σ} {document : Document} {s : Session σ}
    {symbols : List Symbol} (h : (client.documentSymbols document s).1 = .ok (some symbols)) :
    ∃ answer outline, Outline.ofJson? answer = some (some outline) ∧ outline.symbols = symbols := by
  rcases hrequest : client.request "textDocument/documentSymbol"
    (.object [Message.textDocument document.uri]) s with ⟨fault | result, after⟩
  · rw [documentSymbols, hrequest] at h
    cases h
  · rw [documentSymbols, hrequest] at h
    cases hfound : Outline.ofJson? result with
    | none =>
      simp only [andThen, decoded, hfound] at h
      cases h
    | some found =>
      simp only [andThen, decoded, hfound, Except.map, Except.ok.injEq] at h
      obtain ⟨outline, rfl, hsymbols⟩ := Option.map_eq_some_iff.1 h
      exact ⟨result, outline, hfound, hsymbols⟩

/-- **Lines in reports.** Let a client scan some files, and let the user ask to stop during any
call. Every finding is about a symbol in an outline that the server gave, in either form, and its
line is one more than the number given there, in 32 bits. So it is the exact line unless that
number is the last one of 32 bits, and only then it is zero. All other findings are in the order of
their symbols, and if there is no such line, the log and both reports show the exact lines. -/
theorem scan_lines (client : Client σ) (config : Config) (base : String) (stopAt : Option Nat)
    (files : List SourceFile) (s : Session σ) :
    let run := scan config base (client.service.watched stopAt) files ⟨s, []⟩
    let findings := run.outcome.findings
    ∃ sources : List Source, findings = sources.map Source.finding ∧
      (∀ source ∈ sources, source.IsGiven config run.state.calls ∧
        source.finding.line.toNat = source.line % 0x100000000 ∧
        (source.finding.line = 0 ↔ source.line = 0x100000000)) ∧
      (∀ a ∈ sources, ∀ b ∈ sources, a.line < 0x100000000 → b.line < 0x100000000 →
        (a.finding.line < b.finding.line ↔ a.symbol.anchor.line < b.symbol.anchor.line)) ∧
      ((∀ source ∈ sources, source.line < 0x100000000) →
        findings.map Finding.text = sources.map Source.text ∧
        findings.map Finding.item = sources.map Source.item ∧
        findings.map Finding.entry = sources.map Source.entry) := by
  intro run findings
  obtain ⟨records, unstarted, hcovers⟩ := scanFiles_covers config base client.service stopAt
    files.length files 1 ⟨s, []⟩
  have hcalls : run.state.calls = records.flatMap FileRecord.calls := hcovers.calls
  have hfindings : findings = config.justified [] run.state.calls := by
    obtain ⟨new, hnew, hfound⟩ := scanFiles_calls config client.service stopAt base files.length
      files 1 ⟨s, []⟩
    rw [List.nil_append] at hnew
    exact hfound.trans (congrArg (config.justified []) hnew.symm)
  obtain ⟨sources, hsources, hgiven⟩ := sources_records hcovers.ends
  rw [← hcalls] at hsources hgiven
  rw [hsources] at hfindings
  refine ⟨sources, hfindings, fun source hsource => ⟨?_, source.toNat_line_finding,
    source.line_finding_eq_zero⟩, fun a _ b _ ha hb => Source.lt_iff_lt ha hb, fun hexact => ?_⟩
  · obtain ⟨document, symbols, hmem, hfile, hsymbol⟩ := hgiven source hsource
    -- the outline was decoded from the answer to some request
    obtain ⟨hanswers, -⟩ := scan_answers config client.service stopAt base files s
    obtain ⟨state, hgives⟩ := hanswers.gives _ hmem
    obtain ⟨answer, outline, hdecoded, rfl⟩ := outline_decoded hgives
    obtain ⟨place, hplace, hsame⟩ := List.mem_map.1 hsymbol
    obtain ⟨w, hw, hline⟩ :=
      Outline.lines_ofJson hdecoded place (List.mem_filter.1 hplace).1
    rw [hsame] at hline
    exact ⟨document, answer, outline, w, hmem, hfile, hdecoded, hsymbol, hw, hline⟩
  · rw [hfindings, List.map_map, List.map_map, List.map_map]
    exact ⟨List.map_congr_left fun source hsource => Source.text_finding (hexact source hsource),
      List.map_congr_left fun source hsource => Source.item_finding (hexact source hsource),
      List.map_congr_left fun source hsource => Source.entry_finding (hexact source hsource)⟩

end Client

/-- A symbol on the last line that 32 bits can hold, as an element of a nested outline. -/
def lastLine : Json :=
  let place (n : Nat) : Json := .object [("line", .integer 0xFFFFFFFF), ("character", .integer n)]
  let range : Json := .object [("start", place 0), ("end", place 3)]
  .object [("name", .text "big"), ("kind", .integer 6), ("range", range),
    ("selectionRange", range)]

/-- The line of such a symbol is decoded as it is, but its finding stands on line zero. -/
theorem line_lastLine :
    let outline : List Symbol := [.node "big" ⟨6⟩ ⟨0xFFFFFFFF, 0⟩ []]
    let answers : FileAnswers :=
      { outline := .ok (some outline), references := fun _ => .ok (some 1) }
    let run := scan {} "/" (table (fun _ => answers) true) [⟨"/a.dart", "/"⟩] {}
    Outline.ofJson? (.array [lastLine]) = some (some ⟨.nested, outline⟩) ∧
      run.outcome.findings.map Finding.text = ["/a.dart:0: big (method)"] ∧
      ¬ ∀ finding ∈ run.outcome.findings, finding.line.toNat = 0xFFFFFFFF + 1 := by
  intro outline answers run
  have hfindings : run.outcome.findings = [⟨"big", "/a.dart", 0, "method"⟩] := by decide +kernel
  refine ⟨by rfl, by rw [hfindings]; decide +kernel, fun h => ?_⟩
  rw [hfindings] at h
  exact absurd (h _ List.mem_cons_self) (by decide)

end DeadSymbols
