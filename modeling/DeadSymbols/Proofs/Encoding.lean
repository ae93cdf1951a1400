import DeadSymbols.Outline.Decode
import DeadSymbols.Proofs.JsonText
import DeadSymbols.Proofs.Members

/-!
# Outlines and locations as a server writes them

What a value says is a matter of its members, not of their order. A value that encodes an outline
or some locations is decoded to them.

* `Symbol.EncodedAs`: the values that encode a symbol with the symbols inside it.
* `Symbol.ofNested_encoded`, `Outline.ofJson_nested`: what is decoded from them.
* `nesting_encoded`: how deep they are nested.
* `Location.list_encoded`: locations are decoded to as many locations.
-/

namespace DeadSymbols

open Json

/-- A field that may be missing or null holds nothing else that is wrong. -/
def MayHold (field : Option Json) (good : Json → Prop) : Prop :=
  ∀ v, field = some v → v = .null ∨ good v

/-- The values that encode a position. -/
def Position.EncodedAs (p : Position) (v : Json) : Prop :=
  v.get? "line" = some (.integer p.line.toNat) ∧
    v.get? "character" = some (.integer p.character.toNat)

/-- The values that encode a range. -/
def Range.EncodedAs (range : Range) (v : Json) : Prop :=
  (∃ first, v.get? "start" = some first ∧ range.start.EncodedAs first) ∧
    ∃ last, v.get? "end" = some last ∧ range.stop.EncodedAs last

/-- The values that encode a location, with a URL that is absolute. -/
def Location.EncodedAs (location : Location) (v : Json) : Prop :=
  v.get? "uri" = some (.text location.uri) ∧ Uri.isAbsolute location.uri = true ∧
    ∃ range, v.get? "range" = some range ∧ location.range.EncodedAs range

/-- A whole number of 32 bits with a sign. -/
def IsInt32 (n : Int) : Prop := -0x80000000 ≤ n ∧ n ≤ 0x7FFFFFFF

mutual

/-- The values that encode a symbol. Any further members are passed over, except a location, which
would make the symbol one of a flat outline. All members but the children are `side` values. -/
def Symbol.EncodedAs (side : Json → Prop) : Symbol → Json → Prop
  | .node name kind anchor children, v =>
    (∃ members, v = .object members ∧ (members.map Prod.fst).Nodup ∧
      ∀ m ∈ members, m.1 = "children" ∨ side m.2) ∧
    v.get? "name" = some (.text name) ∧
    v.get? "kind" = some (.integer kind.code) ∧ IsInt32 kind.code ∧
    MayHold (v.get? "detail") (fun w => ∃ s, w = .text s) ∧
    MayHold (v.get? "tags") (fun w => ∃ tags : List Int, w = .array (tags.map .integer) ∧
      ∀ tag ∈ tags, IsInt32 tag) ∧
    MayHold (v.get? "deprecated") (fun w => ∃ b, w = .bool b) ∧
    (∃ w range, v.get? "range" = some w ∧ Range.EncodedAs range w) ∧
    (∃ w stop, v.get? "selectionRange" = some w ∧ Range.EncodedAs ⟨anchor, stop⟩ w) ∧
    v.get? "location" = none ∧
    ((children = [] ∧ MayHold (v.get? "children") fun _ => False) ∨
      ∃ vs, v.get? "children" = some (.array vs) ∧ Symbol.AllEncodedAs side children vs)
termination_by structural s => s

/-- Values that encode symbols, one after another. -/
def Symbol.AllEncodedAs (side : Json → Prop) : List Symbol → List Json → Prop
  | [], vs => vs = []
  | s :: rest, vs => ∃ w ws, vs = w :: ws ∧ s.EncodedAs side w ∧ Symbol.AllEncodedAs side rest ws
termination_by structural ss => ss

end

mutual

/-- How many levels of symbols there are in a symbol. -/
def Symbol.levels : Symbol → Nat
  | .node _ _ _ cs => Symbol.levelsAll cs + 1
termination_by structural s => s

/-- How many levels of symbols there are in a forest. -/
def Symbol.levelsAll : List Symbol → Nat
  | [] => 0
  | s :: rest => max s.levels (Symbol.levelsAll rest)
termination_by structural ss => ss

end

/-! ## Fields -/

theorem object_of_get {v w : Json} {key : String} (h : v.get? key = some w) :
    ∃ ms, v = .object ms := by
  cases v with
  | object ms => exact ⟨ms, rfl⟩
  | _ => cases h

/-- A field that is there is read from its value in normal form. -/
theorem required_eq {α : Type} {fields : Fields} {name : String} {v w : Json}
    (hfields : fields.lookup name = (v.get? name).map normal) (hw : v.get? name = some w)
    (read : Json → Option α) : required? fields name read = read w.normal := by
  rw [required?, hfields, hw]
  rfl

theorem optional_none {α : Type} {fields : Fields} {name : String} {v : Json}
    (hfields : fields.lookup name = (v.get? name).map normal)
    (hw : MayHold (v.get? name) fun _ => False) (read : Json → Option α) :
    optional? fields name read = some none := by
  rw [optional?, hfields]
  cases hv : v.get? name with
  | none => rfl
  | some w =>
    rcases hw w hv with rfl | hw
    · rfl
    · exact hw.elim

/-- A field that is missing, null or good is read. -/
theorem optional_mayHold {α : Type} {fields : Fields} {name : String} {v : Json}
    {good : Json → Prop} (hfields : fields.lookup name = (v.get? name).map normal)
    (hw : MayHold (v.get? name) good) (read : Json → Option α)
    (hread : ∀ w, good w → ∃ a, read w.normal = some a) :
    ∃ o, optional? fields name read = some o := by
  rw [optional?, hfields]
  cases hv : v.get? name with
  | none => exact ⟨none, rfl⟩
  | some w =>
    simp only [Option.map_some]
    split
    · exact ⟨none, rfl⟩
    · exact ⟨none, rfl⟩
    · rename_i u hnull hu
      rw [← Option.some.inj hu]
      rcases hw w hv with rfl | hgood
      · exact (hnull (Option.some.inj hu).symm).elim
      · obtain ⟨a, ha⟩ := hread w hgood
        exact ⟨some a, by rw [ha]; rfl⟩

/-! ## Positions, ranges and locations -/

theorem asUInt32_toNat (n : UInt32) : asUInt32? (.integer n.toNat) = some n := by
  have hlt := n.toNat_lt
  have hrange : (decide ((0 : Int) ≤ n.toNat) &&
      decide ((n.toNat : Int) ≤ 0xFFFFFFFF)) = true := by
    rw [Bool.and_eq_true, decide_eq_true_iff, decide_eq_true_iff]
    omega
  simp only [asUInt32?, asBetween?, hrange, if_true, Option.map_some, Int.toNat_natCast,
    UInt32.ofNat_toNat]

theorem Position.ofJson_encoded {p : Position} {v : Json} (h : p.EncodedAs v) :
    Position.ofJson? v.normal = some p := by
  obtain ⟨hline, hcharacter⟩ := h
  obtain ⟨ms, rfl⟩ := object_of_get hline
  obtain ⟨fields, hfields, hlookup⟩ := record_normal ["line", "character"] false ms
  have h1 := required_eq (hlookup "line" (by simp)) hline asUInt32?
  have h2 := required_eq (hlookup "character" (by simp)) hcharacter asUInt32?
  simp only [normal, asUInt32_toNat] at h1 h2
  simp only [Position.ofJson?, hfields, bind, Option.bind, h1, h2]

theorem Range.ofJson_encoded {range : Range} {v : Json} (h : range.EncodedAs v) :
    Range.ofJson? v.normal = some range := by
  obtain ⟨⟨first, hfirst, hstart⟩, last, hlast, hstop⟩ := h
  obtain ⟨ms, rfl⟩ := object_of_get hfirst
  obtain ⟨fields, hfields, hlookup⟩ := record_normal ["start", "end"] false ms
  have h1 := required_eq (hlookup "start" (by simp)) hfirst Position.ofJson?
  have h2 := required_eq (hlookup "end" (by simp)) hlast Position.ofJson?
  rw [Position.ofJson_encoded hstart] at h1
  rw [Position.ofJson_encoded hstop] at h2
  simp only [Range.ofJson?, hfields, bind, Option.bind, h1, h2]

theorem Location.ofJson_encoded {location : Location} {v : Json} (h : location.EncodedAs v) :
    Location.ofJson? v.normal = some location := by
  obtain ⟨huri, habsolute, range, hrange, hencoded⟩ := h
  obtain ⟨ms, rfl⟩ := object_of_get huri
  obtain ⟨fields, hfields, hlookup⟩ := record_normal ["uri", "range"] false ms
  have h1 := required_eq (hlookup "uri" (by simp)) huri readUri?
  have h2 := required_eq (hlookup "range" (by simp)) hrange Range.ofJson?
  have hread : readUri? (Json.text location.uri).normal = some location.uri := by
    simp only [normal, readUri?, asText?, bind, Option.bind, habsolute, if_true]
  rw [hread] at h1
  rw [Range.ofJson_encoded hencoded] at h2
  simp only [Location.ofJson?, hfields, bind, Option.bind, h1, h2]

theorem normalElements_eq (vs : List Json) : normalElements vs = vs.map normal := by
  induction vs with
  | nil => rfl
  | cons v vs ih => rw [normalElements, ih]; rfl

/-- An element that is read, in front of elements that are read. -/
theorem mapM_cons_some {α : Type} {read : Json → Option α} {v : Json} {vs : List Json} {a : α}
    {as : List α} (hv : read v = some a) (hvs : vs.mapM read = some as) :
    (v :: vs).mapM read = some (a :: as) := by
  rw [List.mapM_cons, hv, hvs]
  rfl

theorem nullable_array {α : Type} (read : Json → Option α) (vs : List Json) :
    nullable? read (.array vs) = (read (.array vs)).map some := rfl

/-- **Locations are decoded** to as many locations. -/
theorem Location.list_encoded {vs : List Json}
    (h : ∀ v ∈ vs, ∃ location : Location, location.EncodedAs v) :
    ∃ locations, Location.list? (Json.array vs).normal = some (some locations) ∧
      locations.length = vs.length := by
  have hall : ∃ locations, (vs.map normal).mapM Location.ofJson? = some locations ∧
      locations.length = vs.length := by
    induction vs with
    | nil => exact ⟨[], rfl, rfl⟩
    | cons v vs ih =>
      obtain ⟨location, hv⟩ := h v List.mem_cons_self
      obtain ⟨locations, hvs, hlength⟩ := ih fun w hw => h w (List.mem_cons_of_mem _ hw)
      exact ⟨location :: locations, mapM_cons_some (Location.ofJson_encoded hv) hvs,
        by rw [List.length_cons, List.length_cons, hlength]⟩
  obtain ⟨locations, hread, hlength⟩ := hall
  refine ⟨locations, ?_, hlength⟩
  rw [normal, normalElements_eq, Location.list?, nullable_array, Json.list?, hread]
  rfl

/-! ## Symbols -/

theorem asInt32_integer {n : Int} (h : IsInt32 n) : asInt32? (.integer n) = some n := by
  have hrange : (decide (-0x80000000 ≤ n) && decide (n ≤ 0x7FFFFFFF)) = true := by
    rw [Bool.and_eq_true, decide_eq_true_iff, decide_eq_true_iff]
    exact h
  simp only [asInt32?, asBetween?, hrange, if_true]

theorem readTags_integers {tags : List Int} (h : ∀ tag ∈ tags, IsInt32 tag) :
    readTags? (Json.array (tags.map .integer)).normal = some tags := by
  have hall : ((tags.map Json.integer).map normal).mapM asInt32? = some tags := by
    induction tags with
    | nil => rfl
    | cons tag tags ih =>
      exact mapM_cons_some (asInt32_integer (h tag List.mem_cons_self))
        (ih fun t ht => h t (List.mem_cons_of_mem _ ht))
  rw [normal, normalElements_eq, readTags?, Json.list?, hall]

variable {side : Json → Prop}

mutual

/-- A symbol is decoded from the values that encode it, with fuel for its levels. -/
theorem Symbol.ofNested_encoded : ∀ (s : Symbol) (v : Json) (fuel : Nat),
    s.EncodedAs side v → s.levels ≤ fuel → Symbol.ofNested? fuel v.normal = some s
  | .node name kind anchor children, v, 0, h, hfuel => absurd hfuel (Nat.not_succ_le_zero _)
  | .node name kind anchor children, v, fuel + 1, h, hfuel => by
    obtain ⟨⟨ms, rfl, -, -⟩, hname, hkind, hint, hdetail, htags, hdeprecated,
      ⟨range, r, hrange, hr⟩, ⟨selection, stop, hselection, hs⟩, -, hchildren⟩ := h
    obtain ⟨fields, hfields, hlookup⟩ := record_normal ["name", "detail", "kind", "tags",
      "deprecated", "range", "selectionRange", "children"] false ms
    -- the fields that have to be there
    have h1 := required_eq (hlookup "name" (by simp)) hname asText?
    have h2 := required_eq (hlookup "kind" (by simp)) hkind SymbolKind.ofJson?
    have h3 := required_eq (hlookup "range" (by simp)) hrange Range.ofJson?
    have h4 := required_eq (hlookup "selectionRange" (by simp)) hselection Range.ofJson?
    rw [Range.ofJson_encoded hr] at h3
    rw [Range.ofJson_encoded hs] at h4
    have hcode : SymbolKind.ofJson? (Json.integer kind.code).normal = some kind := by
      simp only [normal, SymbolKind.ofJson?, asInt32_integer hint, Option.map_some]
    rw [hcode] at h2
    -- the fields that may be missing, of which nothing is kept
    obtain ⟨detail, h5⟩ := optional_mayHold (hlookup "detail" (by simp)) hdetail asText?
      (by rintro w ⟨t, rfl⟩; exact ⟨t, rfl⟩)
    obtain ⟨tags, h6⟩ := optional_mayHold (hlookup "tags" (by simp)) htags readTags?
      (by rintro w ⟨tags, rfl, ht⟩; exact ⟨tags, readTags_integers ht⟩)
    obtain ⟨deprecated, h7⟩ := optional_mayHold (hlookup "deprecated" (by simp)) hdeprecated
      asBool? (by rintro w ⟨b, rfl⟩; exact ⟨b, rfl⟩)
    -- the children, with one level of fuel less
    have h8 : ∃ cs, optional? fields "children" (Json.list? (Symbol.ofNested? fuel)) = some cs ∧
        cs.getD [] = children := by
      rcases hchildren with ⟨rfl, hnone⟩ | ⟨vs, hvs, hall⟩
      · exact ⟨none, optional_none (hlookup "children" (by simp)) hnone _, rfl⟩
      · refine ⟨some children, ?_, rfl⟩
        have hread := Symbol.allOfNested_encoded children vs fuel hall
          (Nat.le_of_succ_le_succ hfuel)
        rw [optional?, hlookup "children" (by simp), hvs]
        simp only [Option.map_some, normal, normalElements_eq, Json.list?, hread]
    obtain ⟨cs, h8, hcs⟩ := h8
    simp only [Symbol.ofNested?, hfields, bind, Option.bind, h1, h2, h3, h4, h5, h6, h7, h8, hcs]
    rfl

theorem Symbol.allOfNested_encoded : ∀ (ss : List Symbol) (vs : List Json) (fuel : Nat),
    Symbol.AllEncodedAs side ss vs → Symbol.levelsAll ss ≤ fuel →
      (vs.map normal).mapM (Symbol.ofNested? fuel) = some ss
  | [], vs, fuel, h, hfuel => by
    cases h
    rfl
  | s :: ss, vs, fuel, h, hfuel => by
    obtain ⟨w, ws, rfl, hw, hws⟩ := h
    exact mapM_cons_some
      (Symbol.ofNested_encoded s w fuel hw (Nat.le_trans (Nat.le_max_left _ _) hfuel))
      (Symbol.allOfNested_encoded ss ws fuel hws (Nat.le_trans (Nat.le_max_right _ _) hfuel))

end

/-! ## Depth -/

theorem depth_le_depthMembers {k : String} {v : Json} {ms : List (String × Json)}
    (h : (k, v) ∈ ms) : v.depth ≤ depthMembers ms := by
  induction ms with
  | nil => cases h
  | cons m ms ih =>
    rw [depthMembers]
    rcases List.mem_cons.1 h with h | h
    · rw [← h, depthMember]
      exact Nat.le_max_left _ _
    · exact Nat.le_trans (ih h) (Nat.le_max_right _ _)

/-- A member of an object is less deep than the object in normal form. -/
theorem depth_of_get {v w : Json} {key : String} (h : v.get? key = some w) :
    w.normal.depth < v.normal.depth := by
  obtain ⟨ms, rfl⟩ := object_of_get h
  have hmem : (key, w.normal) ∈ sortMembers (normalMembers ms) := by
    rw [(mem_sortMembers _).2, lookup_normalMembers]
    exact congrArg (Option.map normal) h
  exact Nat.lt_succ_of_le (depth_le_depthMembers hmem)

mutual

/-- A value is at least as deep as there are levels in the symbol that it encodes. -/
theorem Symbol.levels_le_depth : ∀ (s : Symbol) (v : Json), s.EncodedAs side v →
    s.levels ≤ v.normal.depth
  | .node name kind anchor children, v, h => by
    obtain ⟨-, hname, -, -, -, -, -, -, -, -, hchildren⟩ := h
    rw [Symbol.levels]
    rcases hchildren with ⟨rfl, -⟩ | ⟨vs, hvs, hall⟩
    · exact Nat.lt_of_le_of_lt (Nat.zero_le _) (depth_of_get hname)
    · have hdepth := Symbol.levelsAll_le_depth children vs hall
      have hlt := depth_of_get hvs
      rw [normal, normalElements_eq, depth] at hlt
      omega

theorem Symbol.levelsAll_le_depth : ∀ (ss : List Symbol) (vs : List Json),
    Symbol.AllEncodedAs side ss vs → Symbol.levelsAll ss ≤ depthElements (vs.map normal)
  | [], _, _ => Nat.zero_le _
  | s :: ss, vs, h => by
    obtain ⟨w, ws, rfl, hw, hws⟩ := h
    have h1 := Symbol.levels_le_depth s w hw
    have h2 := Symbol.levelsAll_le_depth ss ws hws
    rw [Symbol.levelsAll, List.map_cons, depthElements]
    omega

end

/-! ## Outlines -/

/-- A symbol of a tree is not taken for one of a flat outline, as it has no location. -/
theorem Symbol.ofFlat_encoded {s : Symbol} {v : Json} (h : s.EncodedAs side v) :
    Symbol.ofFlat? v.normal = none := by
  obtain ⟨name, kind, anchor, children⟩ := s
  obtain ⟨⟨ms, rfl, -, -⟩, -, -, -, -, -, -, -, -, hlocation, -⟩ := h
  obtain ⟨fields, hfields, hlookup⟩ := record_normal
    ["name", "kind", "tags", "deprecated", "location", "containerName"] false ms
  have hnone : required? fields "location" Location.ofJson? = none := by
    rw [required?, hlookup "location" (by simp), hlocation]
    rfl
  simp only [Symbol.ofFlat?, hfields, hnone, bind, Option.bind]
  -- whatever the fields in front of the location are, there is no symbol
  cases required? fields "name" asText? with
  | none => rfl
  | some _ =>
    cases required? fields "kind" SymbolKind.ofJson? with
    | none => rfl
    | some _ =>
      cases optional? fields "tags" readTags? with
      | none => rfl
      | some _ => cases optional? fields "deprecated" asBool? <;> rfl

/-- **An outline is decoded** from the values that encode it, as a nested one unless it is empty. -/
theorem Outline.ofJson_nested {outline : List Symbol} {vs : List Json}
    (h : Symbol.AllEncodedAs side outline vs) : Outline.ofJson? (Json.array vs).normal =
      some (some ⟨if outline.isEmpty then .flat else .nested, outline⟩) := by
  have hread := Symbol.allOfNested_encoded outline vs (Json.array vs).normal.depth h (by
    have hdepth := Symbol.levelsAll_le_depth outline vs h
    rw [normal, normalElements_eq, depth]
    omega)
  rw [normal, normalElements_eq] at hread ⊢
  rw [Outline.ofJson?, nullable_array, Outline.ofAnswer?]
  cases outline with
  | nil =>
    cases h
    rfl
  | cons s ss =>
    obtain ⟨w, ws, rfl, hw, hws⟩ := h
    have hflat : Json.list? Symbol.ofFlat? (.array ((w :: ws).map normal)) = none := by
      rw [Json.list?, List.map_cons, List.mapM_cons, Symbol.ofFlat_encoded hw]
      rfl
    rw [hflat]
    simp only [Json.list?, hread, Option.map_some]
    rfl

theorem Outline.ofJson_encoded {outline : List Symbol} {vs : List Json}
    (h : Symbol.AllEncodedAs side outline vs) :
    ∃ shape, Outline.ofJson? (Json.array vs).normal = some (some ⟨shape, outline⟩) :=
  ⟨_, Outline.ofJson_nested h⟩

/-! ## Nesting -/

theorem nestingMembers_le {n : Nat} {ms : List (String × Json)} (h : ∀ m ∈ ms, m.2.nesting ≤ n) :
    nestingMembers ms ≤ n := by
  induction ms with
  | nil => exact Nat.zero_le _
  | cons m ms ih =>
    obtain ⟨k, v⟩ := m
    rw [nestingMembers]
    exact Nat.max_le.2 ⟨h (k, v) List.mem_cons_self, ih fun m hm => h m (List.mem_cons_of_mem _ hm)⟩

theorem nestingElements_le {n : Nat} {vs : List Json} (h : ∀ v ∈ vs, v.nesting ≤ n) :
    nestingElements vs ≤ n := by
  induction vs with
  | nil => exact Nat.zero_le _
  | cons v vs ih =>
    rw [nestingElements]
    exact Nat.max_le.2 ⟨h v List.mem_cons_self, ih fun w hw => h w (List.mem_cons_of_mem _ hw)⟩

/-- The value of a key that stands once. -/
theorem get_of_mem {ms : List (String × Json)} (hnodup : (ms.map Prod.fst).Nodup)
    {m : String × Json} (hm : m ∈ ms) : (Json.object ms).get? m.1 = some m.2 := by
  show lookup? m.1 ms = some m.2
  induction ms with
  | nil => cases hm
  | cons first ms ih =>
    rw [List.map_cons, List.nodup_cons] at hnodup
    rw [lookup_cons]
    rcases List.mem_cons.1 hm with rfl | hm
    · have hno : lookup? m.1 ms = none := lookup_eq_none.2 fun v hv =>
        hnodup.1 (List.mem_map.2 ⟨(m.1, v), hv, rfl⟩)
      rw [hno]
      simp
    · rw [ih hnodup.2 hm]
      rfl

mutual

/-- A symbol is nested two deep for each level, and then as deep as its other members. -/
theorem Symbol.nesting_encoded {n : Nat} (hn : 1 ≤ n) : ∀ (s : Symbol) (v : Json),
    s.EncodedAs (fun w => w.nesting ≤ n) v → v.nesting + 1 ≤ 2 * s.levels + n
  | .node name kind anchor children, v, h => by
    obtain ⟨⟨ms, rfl, hnodup, hside⟩, -, -, -, -, -, -, -, -, -, hchildren⟩ := h
    -- the children are the one member that may be nested deeper
    have hmembers : ∀ m ∈ ms, m.2.nesting ≤ 2 * Symbol.levelsAll children + n := by
      intro m hm
      rcases hside m hm with hkey | hnesting
      · have hget := get_of_mem hnodup hm
        rw [hkey] at hget
        rcases hchildren with ⟨rfl, hnone⟩ | ⟨vs, hvs, hall⟩
        · rcases hnone m.2 hget with hnull | hfalse
          · rw [hnull]
            exact Nat.zero_le _
          · exact hfalse.elim
        · have hall' := Symbol.nestingAll_encoded hn children vs hall
          rw [hget] at hvs
          rw [Option.some.inj hvs, nesting]
          omega
      · omega
    have hall := nestingMembers_le hmembers
    rw [nesting, Symbol.levels]
    omega

theorem Symbol.nestingAll_encoded {n : Nat} (hn : 1 ≤ n) : ∀ (ss : List Symbol) (vs : List Json),
    Symbol.AllEncodedAs (fun w => w.nesting ≤ n) ss vs →
      nestingElements vs + 1 ≤ 2 * Symbol.levelsAll ss + n
  | [], vs, h => by
    cases h
    exact Nat.le_trans hn (Nat.le_add_left _ _)
  | s :: ss, vs, h => by
    obtain ⟨w, ws, rfl, hw, hws⟩ := h
    have h1 := Symbol.nesting_encoded hn s w hw
    have h2 := Symbol.nestingAll_encoded hn ss ws hws
    rw [Symbol.levelsAll, nestingElements]
    omega

end

end DeadSymbols
