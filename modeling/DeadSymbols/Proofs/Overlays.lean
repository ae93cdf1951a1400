import DeadSymbols.Config.Decode
import DeadSymbols.Proofs.Members

/-!
# Partial configurations

A configuration may be written down in part. What it leaves out has its default, in every section of
its own; so reading it is reading the whole default configuration with the part laid over it. Lists
and the options for the server are taken as they are.

* `Json.overlay`: an object laid over another one.
* `Json.record_overlay`: the fields of a record that is laid over another one.
* `Config.overlaid`: a configuration with a partial one laid over it, section by section.
* `Config.ofJson_toJson`: a configuration is read back from its JSON.
* `Config.reads_overlays`: partial configurations, and whole ones that are read back.
-/

namespace DeadSymbols

namespace Json

variable {base members fields : List (String × Json)} {names : List String} {name : String}

/-! ## Overlays -/

/-- Some members, and those of others whose keys they do not have. -/
def overlayMembers (base members : List (String × Json)) : List (String × Json) :=
  base.filter (fun m => (members.lookup m.1).isNone) ++ members

/-- An object laid over another one: its members take the place of those with the same keys. Any
other value takes the place of the whole. -/
def overlay : Json → Json → Json
  | .object base, .object members => .object (overlayMembers base members)
  | _, v => v

/-- A member that is left has no key of the others. -/
theorem ne_of_mem_filter {v : Json} (h : members.lookup name = some v) :
    ∀ m ∈ base.filter (fun m => (members.lookup m.1).isNone), m.1 ≠ name := by
  rintro m hm rfl
  have hnone := (List.mem_filter.1 hm).2
  rw [h] at hnone
  cases hnone

/-- **The members of an overlay**: those of the upper object, and where it has none, those of the
lower one. -/
theorem lookup_overlayMembers (base members : List (String × Json)) (name : String) :
    (overlayMembers base members).lookup name = (members.lookup name).or (base.lookup name) := by
  rw [overlayMembers, List.lookup_append]
  cases hname : members.lookup name with
  | none =>
    have hkeep : ∀ v : Json, (members.lookup (name, v).1).isNone = true := by
      intro v
      rw [hname]
      rfl
    rw [lookup_filter hkeep, Option.or_none, Option.none_or]
  | some v =>
    have hleft : (base.filter fun m => (members.lookup m.1).isNone).lookup name = none :=
      List.lookup_eq_none_iff.2 fun m hm => bne_iff_ne.2 (ne_of_mem_filter hname m hm).symm
    rw [hleft, Option.none_or, Option.some_or]

/-! ## Records -/

/-- The fields of a record whose names are all known, each once. -/
structure AreFields (names : List String) (base : List (String × Json)) : Prop where
  nodup : (base.map Prod.fst).Nodup
  known : ∀ m ∈ base, m.1 ∈ names

/-- A name stands for at most one field. -/
theorem AreFields.length_filter_le (h : AreFields names base) (name : String) :
    (base.filter (·.1 == name)).length ≤ 1 := by
  have hcount := List.nodup_iff_count.1 h.nodup name
  rwa [List.count_eq_countP, List.countP_map, List.countP_eq_length_filter] at hcount

/-- A name that stands for at most one of the upper members does so in the overlay. -/
theorem AreFields.length_overlay (h : AreFields names base) (members : List (String × Json))
    (name : String) :
    ((overlayMembers base members).filter (·.1 == name)).length ≤ 1 ↔
      (members.filter (·.1 == name)).length ≤ 1 := by
  rw [overlayMembers, List.filter_append, List.length_append]
  cases hname : members.lookup name with
  | none =>
    have hupper : members.filter (·.1 == name) = [] := by
      rw [List.filter_eq_nil_iff]
      intro m hm hkey
      have hne := List.lookup_eq_none_iff.1 hname m hm
      rw [beq_iff_eq.1 hkey, bne_self_eq_false] at hne
      cases hne
    have hlower : ((base.filter fun m => (members.lookup m.1).isNone).filter
        (·.1 == name)).length ≤ 1 :=
      Nat.le_trans (List.Sublist.filter _ List.filter_sublist).length_le
        (h.length_filter_le name)
    rw [hupper, List.length_nil]
    omega
  | some v =>
    have hlower : (base.filter fun m => (members.lookup m.1).isNone).filter (·.1 == name) = [] := by
      rw [List.filter_eq_nil_iff]
      intro m hm hkey
      exact ne_of_mem_filter hname m hm (beq_iff_eq.1 hkey)
    rw [hlower, List.length_nil, Nat.zero_add]

/-- **A record laid over another one** is one exactly if it is one alone, and its fields are laid
over those of the other. -/
theorem record_overlay (h : AreFields names base) (mayEndEarly : Bool)
    (members : List (String × Json)) :
    ((Json.object base).overlay (.object members)).record? names mayEndEarly =
      ((Json.object members).record? names mayEndEarly).map (overlayMembers base) := by
  have hlower : base.filter (fun m => ((members.filter fun m => names.contains m.1).lookup
      m.1).isNone) = base.filter fun m => (members.lookup m.1).isNone := by
    refine List.filter_congr fun m hm => ?_
    have hkeep : ∀ v : Json, names.contains (m.1, v).1 = true :=
      fun _ => List.contains_iff_mem.2 (h.known m hm)
    rw [lookup_filter hkeep]
  have hknown : (overlayMembers base members).filter (fun m => names.contains m.1) =
      overlayMembers base (members.filter fun m => names.contains m.1) := by
    rw [overlayMembers, overlayMembers, List.filter_append, hlower]
    congr 1
    rw [List.filter_eq_self]
    intro m hm
    exact List.contains_iff_mem.2 (h.known m (List.mem_filter.1 hm).1)
  have hcheck : (names.all fun n => decide (((overlayMembers base
      (members.filter fun m => names.contains m.1)).filter (·.1 == n)).length ≤ 1)) =
      names.all fun n => decide (((members.filter fun m => names.contains m.1).filter
        (·.1 == n)).length ≤ 1) :=
    congrArg names.all (funext fun n => decide_eq_decide.2 (h.length_overlay _ n))
  rw [overlay, record?, record?, hknown, hcheck]
  split <;> rfl

/-- What is made of the fields of a record laid over another one. -/
theorem record_overlay_bind {α : Type} (h : AreFields names base) (mayEndEarly : Bool)
    {read : Fields → Option α} (hread : ∀ fields, read (overlayMembers base fields) = read fields)
    (v : Json) :
    (((Json.object base).overlay v).record? names mayEndEarly).bind read =
      (v.record? names mayEndEarly).bind read := by
  cases v with
  | object members =>
    rw [record_overlay h, Option.bind_map]
    exact congrArg _ (funext hread)
  | _ => rfl

end Json

open Json

/-! ## Sections -/

section Fields

variable {α : Type} {base : Fields} {name : String} {default : α} {read : Json → Option α}

/-- A field whose default is written below it. -/
theorem ValueForm.field_overlay (h : (base.lookup name).bind read = some default)
    (fields : Fields) :
    ValueForm.field? (overlayMembers base fields) name default read =
      ValueForm.field? fields name default read := by
  rw [ValueForm.field?, ValueForm.field?, lookup_overlayMembers]
  cases fields.lookup name with
  | none =>
    obtain ⟨v, hv, hread⟩ := Option.bind_eq_some_iff.1 h
    rw [hv]
    exact hread
  | some v => rfl

end Fields

/-- **A section is read like the default section with it laid over.** -/
theorem ScanConfig.read_overlay (v : Json) :
    ScanConfig.read? Json.form ((ScanConfig.toJson {}).overlay v) =
      ScanConfig.read? Json.form v := by
  refine record_overlay_bind ⟨by decide, by decide⟩ true (fun fields => ?_) v
  dsimp only
  rw [ValueForm.field_overlay, ValueForm.field_overlay, ValueForm.field_overlay] <;> rfl

theorem ServerConfig.read_overlay (v : Json) :
    ServerConfig.read? Json.form ((ServerConfig.toJson {}).overlay v) =
      ServerConfig.read? Json.form v := by
  refine record_overlay_bind ⟨by decide, by decide⟩ true (fun fields => ?_) v
  dsimp only
  rw [ValueForm.field_overlay, ValueForm.field_overlay, ValueForm.field_overlay,
    ValueForm.field_overlay] <;> rfl

theorem ReportConfig.read_overlay (v : Json) :
    ReportConfig.read? Json.form ((ReportConfig.toJson {}).overlay v) =
      ReportConfig.read? Json.form v := by
  refine record_overlay_bind ⟨by decide, by decide⟩ true (fun fields => ?_) v
  dsimp only
  rw [ValueForm.field_overlay, ValueForm.field_overlay, ValueForm.field_overlay] <;> rfl

theorem Config.read_overlay (v : Json) :
    Config.read? Json.form ((Config.toJson {}).overlay v) = Config.read? Json.form v := by
  refine record_overlay_bind ⟨by decide, by decide⟩ true (fun fields => ?_) v
  dsimp only
  rw [ValueForm.field_overlay, ValueForm.field_overlay, ValueForm.field_overlay,
    ValueForm.field_overlay, ValueForm.field_overlay, ValueForm.field_overlay,
    ValueForm.field_overlay] <;> rfl

namespace Config

/-! ## Whole configurations -/

/-- The sections of a configuration, which are records themselves. -/
def sections : List String := ["scan", "server", "report"]

/-- A member of a partial configuration: a section is laid over that of `config`, and anything else
is taken as it is. -/
def overSection (config : Config) (name : String) (v : Json) : Json :=
  if sections.contains name then ((config.toJson.get? name).getD .null).overlay v else v

/-- A configuration with a partial one laid over it. -/
def overlaid (config : Config) (members : List (String × Json)) : Json :=
  config.toJson.overlay (.object (members.map fun m => (m.1, config.overSection m.1 m.2)))

/-- The fields of a record with other values. -/
theorem record_map (change : String → Json → Json) (names : List String) (mayEndEarly : Bool)
    (members : List (String × Json)) :
    (Json.object (members.map fun m => (m.1, change m.1 m.2))).record? names mayEndEarly =
      ((Json.object members).record? names mayEndEarly).map
        (List.map fun m => (m.1, change m.1 m.2)) := by
  simp only [record?, List.filter_map, List.length_map, Function.comp_def]
  split <;> rfl

theorem field_map {α : Type} (change : String → Json → Json) {name : String} {default : α}
    {read : Json → Option α} (h : ∀ v, read (change name v) = read v) (fields : Fields) :
    ValueForm.field? (fields.map fun m => (m.1, change m.1 m.2)) name default read =
      ValueForm.field? fields name default read := by
  have hlookup : (fields.map fun m => (m.1, change m.1 m.2)).lookup name =
      (fields.lookup name).map (change name) := by
    induction fields with
    | nil => rfl
    | cons m fields ih =>
      rw [List.map_cons, List.lookup_cons, List.lookup_cons, ih]
      cases hkey : name == m.1 with
      | true => rw [beq_iff_eq.1 hkey]; rfl
      | false => rfl
  rw [ValueForm.field?, ValueForm.field?, hlookup]
  cases fields.lookup name with
  | none => rfl
  | some v => exact h v

/-- **A partial configuration is read like the default one with it laid over.** -/
theorem ofJson_overlaid (members : List (String × Json)) :
    ofJson? (overlaid {} members) = ofJson? (.object members) := by
  have hrecord := record_map (overSection {}) ["extensions", "exclude", "respect_gitignore",
    "deduplicate", "scan", "server", "report"] true members
  have hread : ∀ v, read? Json.form v = (Json.record? ["extensions", "exclude", "respect_gitignore",
    "deduplicate", "scan", "server", "report"] true v).bind _ := fun v => rfl
  rw [ofJson?, ofJson?, overlaid, read_overlay, hread, hread, hrecord, Option.bind_map]
  refine congrArg _ (funext fun fields => ?_)
  dsimp only [Function.comp_apply]
  rw [field_map (overSection {}), field_map (overSection {}), field_map (overSection {}),
    field_map (overSection {}), field_map (overSection {}), field_map (overSection {}),
    field_map (overSection {})]
  · exact ReportConfig.read_overlay
  · exact ServerConfig.read_overlay
  · exact ScanConfig.read_overlay
  all_goals exact fun v => rfl

/-! ## Reading back -/

end Config

theorem Json.texts_ofTexts (texts : List String) :
    Json.form.texts? (Json.ofTexts texts) = some texts := by
  show (texts.map Json.text).mapM Json.asText? = some texts
  induction texts with
  | nil => rfl
  | cons text rest ih =>
    rw [List.map_cons, List.mapM_cons, ih]
    rfl

/-- A value that may be missing is read back if it is not written as null. -/
theorem Json.maybe_ofOption {α : Type} {write : α → Json} {read : Json → Option α} {value : Option α}
    (h : ∀ a, value = some a → read (write a) = some a ∧ write a ≠ .null) :
    Json.form.maybe? read (Json.ofOption write value) = some value := by
  cases value with
  | none => rfl
  | some a =>
    obtain ⟨hread, hnull⟩ := h a rfl
    have hpresent : Json.present? (write a) = some (some (write a)) := by
      cases hwrite : write a with
      | null => exact absurd hwrite hnull
      | _ => rfl
    show (Json.present? (write a)).bind _ = _
    rw [hpresent, Option.bind_some]
    show (read (write a)).map some = _
    rw [hread]
    rfl

theorem ScanConfig.read_toJson (c : ScanConfig) :
    ScanConfig.read? Json.form c.toJson = some c := by
  have hcount : Json.form.count? (.integer c.maxReferences) = some c.maxReferences :=
    Json.asNat_natural c.maxReferences
  show (do
    let kinds ← Json.form.texts? (.ofTexts c.targetKinds)
    let mark ← Json.form.text? (.text c.privateMark)
    let count ← Json.form.count? (.integer c.maxReferences)
    some (ScanConfig.mk kinds mark count)) = some c
  rw [Json.texts_ofTexts, hcount]
  rfl

theorem ServerConfig.read_toJson {c : ServerConfig} (h : c.initializationOptions ≠ some .null) :
    ServerConfig.read? Json.form c.toJson = some c := by
  have hoptions : Json.form.maybe? Json.form.any? (.ofOption id c.initializationOptions) =
      some c.initializationOptions :=
    Json.maybe_ofOption fun v hv => ⟨rfl, fun hnull => h (hnull ▸ hv)⟩
  have htimeout : Json.form.maybe? Json.form.count? (.ofOption (fun n => .integer n)
      c.requestTimeout) = some c.requestTimeout := by
    cases c.requestTimeout with
    | none => rfl
    | some n => exact congrArg (Option.map some) (Json.asNat_natural n)
  show (do
    let command ← Json.form.texts? (.ofTexts c.command)
    let language ← Json.form.text? (.text c.languageId)
    let options ← Json.form.maybe? Json.form.any? (.ofOption id c.initializationOptions)
    let timeout ← Json.form.maybe? Json.form.count? (.ofOption (fun n => .integer n)
      c.requestTimeout)
    some (ServerConfig.mk command language options timeout)) = some c
  rw [Json.texts_ofTexts, hoptions, htimeout]
  rfl

theorem ReportConfig.read_toJson (c : ReportConfig) :
    ReportConfig.read? Json.form c.toJson = some c := by
  have hpath : ∀ path : Option String,
      Json.form.maybe? Json.form.text? (.ofOption .text path) = some path :=
    fun path => Json.maybe_ofOption fun p _ => ⟨rfl, Json.noConfusion⟩
  show (do
    let format ← Json.form.text? (.text c.format)
    let output ← Json.form.maybe? Json.form.text? (.ofOption .text c.output)
    let logFile ← Json.form.maybe? Json.form.text? (.ofOption .text c.logFile)
    some (ReportConfig.mk format output logFile)) = some c
  rw [hpath, hpath]
  rfl

namespace Config

/-- **A configuration is read back from its JSON**, unless null stands for the options of the
server. -/
theorem ofJson_toJson {c : Config} (h : c.server.initializationOptions ≠ some .null) :
    ofJson? c.toJson = some c := by
  show (do
    let extensions ← Json.form.texts? (.ofTexts c.extensions)
    let exclude ← Json.form.texts? (.ofTexts c.exclude)
    let respect ← Json.form.flag? (.bool c.respectIgnoreFiles)
    let deduplicate ← Json.form.flag? (.bool c.deduplicate)
    let scan ← ScanConfig.read? Json.form c.scan.toJson
    let server ← ServerConfig.read? Json.form c.server.toJson
    let report ← ReportConfig.read? Json.form c.report.toJson
    some (Config.mk extensions exclude respect deduplicate scan server report)) = some c
  rw [Json.texts_ofTexts, Json.texts_ofTexts, ScanConfig.read_toJson, ServerConfig.read_toJson h,
    ReportConfig.read_toJson]
  rfl

end Config

/-! ## What is read -/

/-- A field that is read has its default or the value that was written. -/
theorem ValueForm.field_eq_some {α : Type} {fields : Fields} {name : String} {default value : α}
    {read : Json → Option α} (h : ValueForm.field? fields name default read = some value) :
    value = default ∨ ∃ v, read v = some value := by
  rw [ValueForm.field?] at h
  split at h
  · exact .inl (Option.some.inj h).symm
  · exact .inr ⟨_, h⟩

theorem Json.maybe_any_ne_null {v : Json} {value : Option Json}
    (h : Json.form.maybe? Json.form.any? v = some value) : value ≠ some .null := by
  rintro rfl
  cases v <;> cases h

/-- Null is never read as options of the server. -/
theorem ServerConfig.options_of_read {v : Json} {c : ServerConfig}
    (h : ServerConfig.read? Json.form v = some c) : c.initializationOptions ≠ some .null := by
  obtain ⟨fields, -, h⟩ := Option.bind_eq_some_iff.1 h
  obtain ⟨command, -, h⟩ := Option.bind_eq_some_iff.1 h
  obtain ⟨language, -, h⟩ := Option.bind_eq_some_iff.1 h
  obtain ⟨options, hoptions, h⟩ := Option.bind_eq_some_iff.1 h
  obtain ⟨timeout, -, h⟩ := Option.bind_eq_some_iff.1 h
  cases h
  rcases ValueForm.field_eq_some hoptions with rfl | ⟨v, hv⟩
  · exact nofun
  · exact Json.maybe_any_ne_null hv

theorem Config.options_of_ofJson {v : Json} {c : Config} (h : Config.ofJson? v = some c) :
    c.server.initializationOptions ≠ some .null := by
  obtain ⟨fields, -, h⟩ := Option.bind_eq_some_iff.1 h
  obtain ⟨extensions, -, h⟩ := Option.bind_eq_some_iff.1 h
  obtain ⟨exclude, -, h⟩ := Option.bind_eq_some_iff.1 h
  obtain ⟨respect, -, h⟩ := Option.bind_eq_some_iff.1 h
  obtain ⟨deduplicate, -, h⟩ := Option.bind_eq_some_iff.1 h
  obtain ⟨scan, -, h⟩ := Option.bind_eq_some_iff.1 h
  obtain ⟨server, hserver, h⟩ := Option.bind_eq_some_iff.1 h
  obtain ⟨report, -, h⟩ := Option.bind_eq_some_iff.1 h
  cases h
  rcases ValueForm.field_eq_some hserver with rfl | ⟨v, hv⟩
  · exact nofun
  · exact ServerConfig.options_of_read hv

namespace Config

/-- **Partial configurations are overlays of the default one.** An object is read, or refused, like
the default configuration in which its members take the place of those with the same keys, section
by section where a section is an object itself. And a configuration that is read, from an object or
from a list of its fields, is read back from its JSON, as is every other one, unless its options for
the server are null, which stands for none. -/
theorem reads_overlays :
    (∀ members : List (String × Json),
      ofJson? (.object members) = ofJson? (overlaid {} members)) ∧
    (∀ (v : Json) (c : Config), ofJson? v = some c → ofJson? c.toJson = some c) ∧
    ∀ c : Config, c.server.initializationOptions ≠ some .null → ofJson? c.toJson = some c :=
  ⟨fun members => (ofJson_overlaid members).symm, fun _ _ h => ofJson_toJson (options_of_ofJson h),
    fun _ => ofJson_toJson⟩

/-- A list of fields, the last ones left out, with a list for a section and options for the server
that are an object. -/
def listedConfig : Json :=
  .array [.array [.text "kt"], .array [], .bool false, .bool true, .array [.array [.text "Class"]],
    .object [("initialization_options", .object [("a", .null)]), ("request_timeout_secs", .null)]]

theorem reads_overlays_listed :
    ∃ c, ofJson? listedConfig = some c ∧ c.extensions = ["kt"] ∧ c.exclude = [] ∧
      c.respectIgnoreFiles = false ∧ c.deduplicate = true ∧ c.scan.targetKinds = ["Class"] ∧
      c.scan.maxReferences = 1 ∧ c.server.languageId = "dart" ∧
      c.server.initializationOptions = some (.object [("a", .null)]) ∧
      c.server.requestTimeout = none ∧ ofJson? c.toJson = some c := by
  refine ⟨_, rfl, rfl, rfl, rfl, rfl, rfl, rfl, rfl, rfl, rfl, ?_⟩
  exact reads_overlays.2.1 listedConfig _ rfl

end Config

end DeadSymbols
