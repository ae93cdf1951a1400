import DeadSymbols.Proofs.Encoding
import DeadSymbols.Proofs.Indented
import DeadSymbols.Report.Document

/-!
# Reading JSON reports

A JSON report is read back to the outcome that it tells of: every finding with its name, kind, file
and line, every counter from its own member, and whether the scan was cancelled. The counters are
numbers of 64 bits.

* `Outcome.ofContent?`: the outcome that the content of a report tells of.
* `isWhole_jsonContent`, `nesting_jsonContent`: the content can be read from its text.
* `ofContent_jsonContent`: the outcome is recovered from the content.
* `jsonReport_lossless`: and so it is from the report, which no other outcome has.
-/

namespace DeadSymbols

open Json

/-! ## Readers -/

/-- The finding of an entry. -/
def Finding.ofElement? (v : Json) : Option Finding := do
  let name ← (v.get? "name").bind asText?
  let kind ← (v.get? "kind").bind asText?
  let file ← (v.get? "file").bind asText?
  let line ← (v.get? "line").bind asUInt32?
  some ⟨name, file, line, kind⟩

/-- The outcome that the content of a report tells of. -/
def Outcome.ofContent? (v : Json) : Option Outcome := do
  let findings ← (v.get? "findings").bind (Json.list? Finding.ofElement?)
  let files ← v.get? "files"
  let total ← (files.get? "total").bind asNat?
  let scanned ← (files.get? "scanned").bind asNat?
  let skipped ← (files.get? "skipped").bind asNat?
  let failed ← (files.get? "failed").bind asNat?
  let cancelled ← (v.get? "cancelled").bind asBool?
  some ⟨findings, total, scanned, skipped, failed, cancelled⟩

/-- The number of findings that the content of a report states. -/
def statedFindings? (v : Json) : Option Nat := (v.get? "total_findings").bind asNat?

/-- The counters of an outcome and the number of its findings are numbers of 64 bits. -/
structure Outcome.Fits (outcome : Outcome) : Prop where
  findings : outcome.findings.length ≤ Json.maxUInt64
  total : outcome.filesTotal ≤ Json.maxUInt64
  scanned : outcome.filesScanned ≤ Json.maxUInt64
  skipped : outcome.filesSkipped ≤ Json.maxUInt64
  failed : outcome.filesFailed ≤ Json.maxUInt64

/-! ## The content can be read from its text -/

theorem Json.fitsInteger_natural {n : Nat} (h : n ≤ Json.maxUInt64) : FitsInteger n := by
  have hn : (n : Int) ≤ Json.maxUInt64 := Int.ofNat_le.2 h
  exact ⟨by omega, hn⟩

theorem Finding.isWhole_entry (f : Finding) : f.entry.IsWhole := by
  have hlt : f.line.toNat < 0x100000000 := f.line.toNat_lt
  have hline : f.line.toNat ≤ Json.maxUInt64 := by
    rw [Json.maxUInt64]
    omega
  exact ⟨trivial, trivial, trivial, fitsInteger_natural hline, trivial⟩

theorem areWhole_entries (findings : List Finding) : AreWhole (findings.map Finding.entry) := by
  induction findings with
  | nil => exact trivial
  | cons f rest ih => exact ⟨f.isWhole_entry, ih⟩

/-- All numbers in a report are whole numbers of 64 bits. -/
theorem isWhole_jsonContent {outcome : Outcome} (h : outcome.Fits) :
    (jsonContent outcome).IsWhole := by
  have hfiles : MembersAreWhole [("total", .integer outcome.filesTotal),
      ("scanned", .integer outcome.filesScanned), ("skipped", .integer outcome.filesSkipped),
      ("failed", .integer outcome.filesFailed)] :=
    ⟨fitsInteger_natural h.total, fitsInteger_natural h.scanned, fitsInteger_natural h.skipped,
      fitsInteger_natural h.failed, trivial⟩
  exact ⟨trivial, fitsInteger_natural h.findings, trivial, hfiles,
    areWhole_entries outcome.findings, trivial⟩

/-- The report, the list of findings and an entry lie inside one another. -/
theorem nesting_jsonContent (outcome : Outcome) : (jsonContent outcome).nesting ≤ maxDepth := by
  have hentries : nestingElements (outcome.findings.map Finding.entry) ≤ 1 := by
    apply nestingElements_le
    intro v hv
    obtain ⟨f, -, rfl⟩ := List.mem_map.1 hv
    exact Nat.le_refl 1
  have hcontent : (jsonContent outcome).nesting =
      max 1 (nestingElements (outcome.findings.map Finding.entry) + 1) + 1 := by
    simp [jsonContent, nesting, nestingMembers, nestingMember]
  rw [hcontent, maxDepth]
  omega

/-! ## What is recovered -/

theorem Finding.ofElement_entry (f : Finding) : Finding.ofElement? f.entry.normal = some f := by
  have hname : f.entry.get? "name" = some (.text f.name) := rfl
  have hkind : f.entry.get? "kind" = some (.text f.kind) := rfl
  have hfile : f.entry.get? "file" = some (.text f.file) := rfl
  have hline : f.entry.get? "line" = some (.integer f.line.toNat) := rfl
  simp only [ofElement?, get_normal, hname, hkind, hfile, hline, Option.map_some, Option.bind_some,
    normal, asText?, asUInt32_toNat, bind]

theorem mapM_ofElement (findings : List Finding) :
    ((findings.map Finding.entry).map normal).mapM Finding.ofElement? = some findings := by
  induction findings with
  | nil => rfl
  | cons f rest ih => exact mapM_cons_some f.ofElement_entry ih

/-- **The outcome is recovered from the content of its report**, whatever the order of members. -/
theorem ofContent_jsonContent (outcome : Outcome) :
    Outcome.ofContent? (jsonContent outcome).normal = some outcome := by
  have hfindings : (jsonContent outcome).get? "findings" =
      some (.array (outcome.findings.map Finding.entry)) := rfl
  have hcancelled : (jsonContent outcome).get? "cancelled" = some (.bool outcome.cancelled) := rfl
  have hfiles : (jsonContent outcome).get? "files" = some (.object [
      ("total", .integer outcome.filesTotal), ("scanned", .integer outcome.filesScanned),
      ("skipped", .integer outcome.filesSkipped), ("failed", .integer outcome.filesFailed)]) := rfl
  -- the counters, each from the member of its name
  generalize hcounts : Json.object [("total", .integer outcome.filesTotal),
    ("scanned", .integer outcome.filesScanned), ("skipped", .integer outcome.filesSkipped),
    ("failed", .integer outcome.filesFailed)] = counts at hfiles
  have htotal : counts.get? "total" = some (.integer outcome.filesTotal) := by
    rw [← hcounts]
    rfl
  have hscanned : counts.get? "scanned" = some (.integer outcome.filesScanned) := by
    rw [← hcounts]
    rfl
  have hskipped : counts.get? "skipped" = some (.integer outcome.filesSkipped) := by
    rw [← hcounts]
    rfl
  have hfailed : counts.get? "failed" = some (.integer outcome.filesFailed) := by
    rw [← hcounts]
    rfl
  have hlist : Json.list? Finding.ofElement?
      (.array ((outcome.findings.map Finding.entry).map normal)) = some outcome.findings :=
    mapM_ofElement outcome.findings
  simp only [Outcome.ofContent?, get_normal, hfindings, hcancelled, hfiles, htotal, hscanned,
    hskipped, hfailed, Option.map_some, Option.bind_some, normal, normalElements_eq, hlist,
    asNat_natural, asBool?, bind]

theorem statedFindings_jsonContent (outcome : Outcome) :
    statedFindings? (jsonContent outcome).normal = some outcome.findings.length := by
  have htotal : (jsonContent outcome).get? "total_findings" =
      some (.integer outcome.findings.length) := rfl
  simp only [statedFindings?, get_normal, htotal, Option.map_some, Option.bind_some, normal,
    asNat_natural]

/-- The content of a report is read from its bytes. -/
theorem ofBytes_jsonReport {outcome : Outcome} (h : outcome.Fits) :
    ofBytes? (Text.encode (jsonReport outcome)) = some (jsonContent outcome).normal :=
  ofBytes_pretty (isWhole_jsonContent h) (nesting_jsonContent outcome)

/-- **A JSON report loses nothing.** From the value that its text stands for the whole outcome is
recovered, and the number of findings that it states is their number. So no two outcomes have the
same report. -/
theorem jsonReport_lossless (outcome : Outcome) (h : outcome.Fits) :
    (∃ v, ofBytes? (Text.encode (jsonReport outcome)) = some v ∧
      Outcome.ofContent? v = some outcome ∧
      statedFindings? v = some outcome.findings.length) ∧
    ∀ other : Outcome, other.Fits → jsonReport other = jsonReport outcome → other = outcome := by
  have hread := ofBytes_jsonReport h
  refine ⟨⟨_, hread, ofContent_jsonContent outcome, statedFindings_jsonContent outcome⟩, ?_⟩
  intro other hfits hsame
  -- the same text is read to the same content
  have hother := ofBytes_jsonReport hfits
  rw [hsame, hread] at hother
  have hcontent : (jsonContent outcome).normal = (jsonContent other).normal :=
    Option.some.inj hother
  have hrecovered := ofContent_jsonContent other
  rw [← hcontent, ofContent_jsonContent] at hrecovered
  exact (Option.some.inj hrecovered).symm

/-- Quotes, backslashes, control characters and characters of several bytes in a name are read
back, and so are counters that differ only in their names. -/
theorem jsonReport_lossless_escaped :
    let outcome : Outcome :=
      { findings := [⟨"a\x22\\\n\x01é→", "/lib/a b.dart", 4294967295, "\t"⟩, ⟨"", "", 0, ""⟩]
        filesTotal := 4, filesScanned := 1, filesSkipped := 2, filesFailed := 1, cancelled := true }
    outcome.Fits ∧ ∃ v, ofBytes? (Text.encode (jsonReport outcome)) = some v ∧
      Outcome.ofContent? v = some outcome ∧ statedFindings? v = some 2 := by
  intro outcome
  have hfits : outcome.Fits :=
    ⟨by decide, by decide, by decide, by decide, by decide⟩
  exact ⟨hfits, (jsonReport_lossless outcome hfits).1⟩

end DeadSymbols
