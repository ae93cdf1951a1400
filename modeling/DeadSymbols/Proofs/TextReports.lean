import Mathlib.Data.List.Basic
import DeadSymbols.Proofs.JsonReports

/-!
# Reading reports that are written to be read

The list of findings in Markdown and the log are texts, and names and paths stand in them as they
are. They can be read back all the same. Names and paths have no line feeds, so a text falls into
its lines; in a line, the name of a kind and the digits of a line number lack the characters that
come after them or before them, and what remains is a name or a path, whatever it looks like. Only
a line of the log starts with a path, so there a path must not have a colon.

* `cut?`, `cutLast?`: a line cut at a separator.
* `readMarkdown?`, `readLog?`: readers for the two texts.
* `readMarkdown_markdown`, `readLog_logText`: they recover the findings and their number.
* `reports_unambiguous`: different findings have different texts, and all three reports of an
  outcome tell the same.
-/

namespace DeadSymbols

/-! ## Lines cut at separators -/

/-- Cuts off the characters at the start that satisfy `p`, which a separator follows. -/
def cut? (p : Char → Bool) (separator line : List Char) : Option (List Char × List Char) :=
  ((line.dropWhile p).dropPrefix? separator).map fun rest => (line.takeWhile p, rest)

/-- Cuts off the characters at the end that satisfy `p`, which a separator precedes. -/
def cutLast? (p : Char → Bool) (separator line : List Char) : Option (List Char × List Char) :=
  (cut? p separator.reverse line.reverse).map fun (last, rest) => (rest.reverse, last.reverse)

/-- What stands between a text at the start of a line and a text at its end. -/
def between? (first last : String) (line : List Char) : Option (List Char) :=
  (line.dropPrefix? first.toList).bind fun rest => rest.dropSuffix? last.toList

theorem dropPrefix?_append (first rest : List Char) :
    (first ++ rest).dropPrefix? first = some rest :=
  List.dropPrefix?_append_of_beq rest (beq_self_eq_true first)

theorem dropSuffix?_append (rest last : List Char) :
    (rest ++ last).dropSuffix? last = some rest :=
  List.dropSuffix?_eq_some_iff.2 ⟨last, rfl, beq_self_eq_true last⟩

theorem cut_append {p : Char → Bool} {a separator : List Char} (ha : ∀ c ∈ a, p c = true)
    (hstop : separator.head?.any (!p ·)) (b : List Char) :
    cut? p separator (a ++ (separator ++ b)) = some (a, b) := by
  cases separator with
  | nil => cases hstop
  | cons c rest =>
    have hc : p c = false := by simpa using hstop
    have htake : (a ++ (c :: rest ++ b)).takeWhile p = a := by
      rw [List.takeWhile_append_of_pos ha, List.cons_append, List.takeWhile_cons, hc]
      simp
    have hdrop : (a ++ (c :: rest ++ b)).dropWhile p = c :: rest ++ b := by
      rw [List.dropWhile_append_of_pos ha, List.cons_append, List.dropWhile_cons, hc]
      simp
    rw [cut?, htake, hdrop, dropPrefix?_append]
    rfl

theorem cutLast_append {p : Char → Bool} {b separator : List Char} (hb : ∀ c ∈ b, p c = true)
    (hstop : separator.reverse.head?.any (!p ·)) (a : List Char) :
    cutLast? p separator (a ++ (separator ++ b)) = some (a, b) := by
  have hb' : ∀ c ∈ b.reverse, p c = true := fun c hc => hb c (List.mem_reverse.1 hc)
  have hline : (a ++ (separator ++ b)).reverse = b.reverse ++ (separator.reverse ++ a.reverse) := by
    simp
  rw [cutLast?, hline, cut_append hb' hstop]
  simp

theorem between_append (first last : String) (line : List Char) :
    between? first last (first.toList ++ (line ++ last.toList)) = some line := by
  rw [between?, dropPrefix?_append, Option.bind_some, dropSuffix?_append]

/-! ## Numbers -/

/-- The number that digits stand for. -/
def readNumber? (ds : List Char) : Option Nat :=
  if !ds.isEmpty && ds.all Char.isDigit then some (Text.decimalValue ds) else none

/-- The line number that digits stand for. -/
def readLineNumber? (ds : List Char) : Option UInt32 :=
  (readNumber? ds).bind fun n => if n < UInt32.size then some (UInt32.ofNat n) else none

theorem toList_natural (n : Nat) : (toString n).toList = Nat.toDigits 10 n := Nat.toList_repr

theorem readNumber_toDigits (n : Nat) : readNumber? (Nat.toDigits 10 n) = some n := by
  have hall : (Nat.toDigits 10 n).all Char.isDigit = true :=
    List.all_eq_true.2 fun c hc => isDigit_toDigits hc
  have hne : (Nat.toDigits 10 n).isEmpty = false := by
    rw [List.isEmpty_eq_false_iff]
    exact Nat.toDigits_ne_nil
  have hvalue : Text.decimalValue (Nat.toDigits 10 n) = n := by
    rw [Text.decimalValue, foldl_digits, Nat.ofDigitChars_ten_toDigits]
  rw [readNumber?, hall, hne, hvalue]
  rfl

theorem readLineNumber_toDigits (n : UInt32) :
    readLineNumber? (Nat.toDigits 10 n.toNat) = some n := by
  have hlt : n.toNat < UInt32.size := n.toNat_lt
  rw [readLineNumber?, readNumber_toDigits, Option.bind_some, if_pos hlt, UInt32.ofNat_toNat]

/-! ## Readers -/

/-- The finding of an item in Markdown, which takes two lines. -/
def readItem? (first second : List Char) : Option Finding := do
  let (kind, name) ← cut? (· != ':') ": ".toList (← first.dropPrefix? "- ".toList)
  let (file, digits) ← cutLast? Char.isDigit " (Line ".toList (← between? "  File: " ")" second)
  let line ← readLineNumber? digits
  some ⟨String.ofList name, String.ofList file, line, String.ofList kind⟩

/-- The findings of items, each of which an empty line follows. -/
def readItems? : List (List Char) → Option (List Finding)
  | [[]] => some []
  | first :: second :: [] :: rest => do
    let f ← readItem? first second
    let more ← readItems? rest
    some (f :: more)
  | _ => none

/-- The number of findings that a list in Markdown states, and the findings in it. -/
def readMarkdown? (text : String) : Option (Nat × List Finding) :=
  match text.toList.splitOn '\n' with
  | header :: [] :: rest => do
    let digits ← between? "Found " " potentially unreferenced symbols:" header
    let count ← readNumber? digits
    if rest = ["No unreferenced symbols found. Great job!".toList] then some (count, [])
    else
      let findings ← readItems? rest
      some (count, findings)
  | _ => none

/-- The finding of a line of the log. -/
def readLogLine? (line : List Char) : Option Finding := do
  let (file, rest) ← cut? (· != ':') ":".toList line
  let (digits, rest) ← cut? Char.isDigit ": ".toList rest
  let (name, kind) ← cutLast? (· != '(') " (".toList (← rest.dropSuffix? ")".toList)
  let line ← readLineNumber? digits
  some ⟨String.ofList name, String.ofList file, line, String.ofList kind⟩

/-- The number of findings that a log states, and the findings in it: its lines up to the first
that is empty. -/
def readLog? (text : String) : Option (Nat × List Finding) :=
  let lines := text.toList.splitOn '\n'
  match lines.dropWhile (!·.isEmpty) with
  | [[], total, []] => do
    let findings ← (lines.takeWhile (!·.isEmpty)).mapM readLogLine?
    let digits ← between? "→ Found " " unreferenced symbols." total
    let count ← readNumber? digits
    some (count, findings)
  | _ => none

/-- The number of findings that a JSON report states, and the findings in it. -/
def readJsonReport? (text : String) : Option (Nat × List Finding) := do
  let v ← Json.ofBytes? (Text.encode text)
  let count ← statedFindings? v
  let outcome ← Outcome.ofContent? v
  some (count, outcome.findings)

/-! ## Findings -/

/-- A finding as a scan makes it, with a name and a path that have no line feeds. -/
structure Finding.IsPlain (f : Finding) : Prop where
  kind : ∃ kind : SymbolKind, f.kind = kind.name
  name : '\n' ∉ f.name.toList
  file : '\n' ∉ f.file.toList

/-- The names of kinds have no separators in them. -/
theorem SymbolKind.name_chars (kind : SymbolKind) :
    ∀ c ∈ kind.name.toList, c ≠ ':' ∧ c ≠ '(' ∧ c ≠ '\n' := by
  have hall : (("other" :: SymbolKind.names).all fun name =>
      name.toList.all fun c => c != ':' && (c != '(' && c != '\n')) = true := by decide +kernel
  have hmem : kind.name ∈ "other" :: SymbolKind.names := by
    unfold SymbolKind.name
    split
    · cases hname : SymbolKind.names[kind.code.toNat - 1]? with
      | none => exact List.mem_cons_self
      | some name => exact List.mem_cons_of_mem _ (List.mem_of_getElem? hname)
    · exact List.mem_cons_self
  intro c hc
  have hchar := List.all_eq_true.1 (List.all_eq_true.1 hall kind.name hmem) c hc
  rw [Bool.and_eq_true, Bool.and_eq_true, bne_iff_ne, bne_iff_ne, bne_iff_ne] at hchar
  exact hchar

theorem newline_not_mem_toDigits (n : Nat) : '\n' ∉ Nat.toDigits 10 n := by
  intro h
  exact absurd (isDigit_toDigits h) (by decide)

namespace Finding

variable {f : Finding}

theorem IsPlain.kind_chars (h : f.IsPlain) :
    ∀ c ∈ f.kind.toList, c ≠ ':' ∧ c ≠ '(' ∧ c ≠ '\n' := by
  obtain ⟨kind, hkind⟩ := h.kind
  rw [hkind]
  exact kind.name_chars

/-- The first line of the item for a finding. -/
def itemHead (f : Finding) : List Char :=
  "- ".toList ++ (f.kind.toList ++ (": ".toList ++ f.name.toList))

/-- The second line of the item for a finding. -/
def itemPlace (f : Finding) : List Char :=
  "  File: ".toList ++
    ((f.file.toList ++ (" (Line ".toList ++ Nat.toDigits 10 f.line.toNat)) ++ ")".toList)

/-- The line of the log for a finding. -/
def logLine (f : Finding) : List Char :=
  f.file.toList ++ (":".toList ++ (Nat.toDigits 10 f.line.toNat ++ (": ".toList ++
    ((f.name.toList ++ (" (".toList ++ f.kind.toList)) ++ ")".toList))))

/-- An item is its two lines and an empty one. -/
theorem toList_item (f : Finding) :
    f.item.toList = f.itemHead ++ '\n' :: (f.itemPlace ++ ['\n', '\n']) := by
  have hitem : f.item = "- " ++ f.kind ++ ": " ++ f.name ++ "\n  File: " ++ f.file ++ " (Line " ++
    toString f.line.toNat ++ ")\n\n" := rfl
  have hfile : "\n  File: ".toList = '\n' :: "  File: ".toList := rfl
  have hend : ")\n\n".toList = ")".toList ++ ['\n', '\n'] := rfl
  rw [hitem]
  unfold itemHead itemPlace
  simp only [String.toList_append, hfile, hend, toList_natural, List.append_assoc,
    List.cons_append]

theorem toList_text (f : Finding) : f.text.toList = f.logLine := by
  have htext : f.text =
    f.file ++ ":" ++ toString f.line.toNat ++ ": " ++ f.name ++ " (" ++ f.kind ++ ")" := rfl
  rw [htext]
  simp only [String.toList_append, toList_natural, logLine, List.append_assoc]

/-- **A finding is read back from its item.** -/
theorem IsPlain.readItem (h : f.IsPlain) : readItem? f.itemHead f.itemPlace = some f := by
  have hkind : ∀ c ∈ f.kind.toList, (c != ':') = true := by
    intro c hc
    exact bne_iff_ne.2 (h.kind_chars c hc).1
  have hdigits : ∀ c ∈ Nat.toDigits 10 f.line.toNat, c.isDigit = true := fun c hc =>
    isDigit_toDigits hc
  have hhead : cut? (· != ':') ": ".toList (f.kind.toList ++ (": ".toList ++ f.name.toList)) =
      some (f.kind.toList, f.name.toList) := cut_append hkind (by decide) _
  have hplace : cutLast? Char.isDigit " (Line ".toList
      (f.file.toList ++ (" (Line ".toList ++ Nat.toDigits 10 f.line.toNat)) =
      some (f.file.toList, Nat.toDigits 10 f.line.toNat) := cutLast_append hdigits (by decide) _
  unfold readItem? itemHead itemPlace
  rw [dropPrefix?_append, between_append]
  simp only [Option.bind_eq_bind, Option.bind_some, hhead, hplace, readLineNumber_toDigits,
    String.ofList_toList]

/-- **A finding is read back from its line in the log**, if its path has no colon. -/
theorem IsPlain.readLogLine (h : f.IsPlain) (hcolon : ':' ∉ f.file.toList) :
    readLogLine? f.logLine = some f := by
  have hfile : ∀ c ∈ f.file.toList, (c != ':') = true := by
    intro c hc
    exact bne_iff_ne.2 (ne_of_mem_of_not_mem hc hcolon)
  have hkind : ∀ c ∈ f.kind.toList, (c != '(') = true := by
    intro c hc
    exact bne_iff_ne.2 (h.kind_chars c hc).2.1
  have hdigits : ∀ c ∈ Nat.toDigits 10 f.line.toNat, c.isDigit = true := fun c hc =>
    isDigit_toDigits hc
  -- from the start up to the line number, and the kind from the end
  have hline : cut? Char.isDigit ": ".toList (Nat.toDigits 10 f.line.toNat ++ (": ".toList ++
      ((f.name.toList ++ (" (".toList ++ f.kind.toList)) ++ ")".toList))) =
      some (Nat.toDigits 10 f.line.toNat,
        (f.name.toList ++ (" (".toList ++ f.kind.toList)) ++ ")".toList) :=
    cut_append hdigits (by decide) _
  have hname : cutLast? (· != '(') " (".toList
      (f.name.toList ++ (" (".toList ++ f.kind.toList)) = some (f.name.toList, f.kind.toList) :=
    cutLast_append hkind (by decide) _
  rw [readLogLine?, logLine, cut_append hfile (by decide)]
  simp only [Option.bind_eq_bind, Option.bind_some, hline, dropSuffix?_append, hname,
    readLineNumber_toDigits, String.ofList_toList]

theorem IsPlain.newline_itemHead (h : f.IsPlain) : '\n' ∉ f.itemHead := by
  have hkind : '\n' ∉ f.kind.toList := fun hc => (h.kind_chars _ hc).2.2 rfl
  simp only [itemHead, List.mem_append, not_or]
  exact ⟨by decide, hkind, by decide, h.name⟩

theorem IsPlain.newline_itemPlace (h : f.IsPlain) : '\n' ∉ f.itemPlace := by
  unfold itemPlace
  simp only [List.mem_append, not_or]
  exact ⟨by decide, ⟨h.file, by decide, newline_not_mem_toDigits _⟩, by decide⟩

theorem IsPlain.newline_logLine (h : f.IsPlain) : '\n' ∉ f.logLine := by
  have hkind : '\n' ∉ f.kind.toList := fun hc => (h.kind_chars _ hc).2.2 rfl
  simp only [logLine, List.mem_append, not_or]
  exact ⟨h.file, by decide, newline_not_mem_toDigits _, by decide, ⟨h.name, by decide, hkind⟩,
    by decide⟩

/-- A line of the log is not empty. -/
theorem isEmpty_logLine (f : Finding) : f.logLine.isEmpty = false := by
  rw [List.isEmpty_eq_false_iff]
  exact List.append_ne_nil_of_right_ne_nil _ (List.append_ne_nil_of_left_ne_nil (by decide) _)

end Finding

/-! ## Markdown -/

/-- The lines of the items for some findings, and the empty line at the end of the text. -/
def itemLines (findings : List Finding) : List (List Char) :=
  findings.flatMap (fun f => [f.itemHead, f.itemPlace, []]) ++ [[]]

/-- The lines of the list in Markdown. -/
def markdownLines (findings : List Finding) : List (List Char) :=
  ("Found ".toList ++ (Nat.toDigits 10 findings.length ++
      " potentially unreferenced symbols:".toList)) :: [] ::
    if findings.isEmpty then ["No unreferenced symbols found. Great job!".toList]
    else itemLines findings

theorem itemLines_cons (f : Finding) (rest : List Finding) :
    itemLines (f :: rest) = f.itemHead :: f.itemPlace :: [] :: itemLines rest := rfl

theorem itemLines_ne_nil (findings : List Finding) : itemLines findings ≠ [] :=
  List.append_ne_nil_of_right_ne_nil _ (List.cons_ne_nil _ _)

theorem intercalate_itemLines (findings : List Finding) :
    List.intercalate ['\n'] (itemLines findings) =
      (String.join (findings.map Finding.item)).toList := by
  induction findings with
  | nil => rfl
  | cons f rest ih =>
    rw [itemLines_cons, List.intercalate_cons_cons, List.intercalate_cons_cons,
      List.intercalate_cons_of_ne_nil (itemLines_ne_nil rest), ih, List.map_cons, String.join_cons,
      String.toList_append, Finding.toList_item]
    simp

theorem toList_markdown (findings : List Finding) :
    (markdown findings).toList = List.intercalate ['\n'] (markdownLines findings) := by
  have hmarkdown : markdown findings = "Found " ++ toString findings.length ++
      " potentially unreferenced symbols:\n\n" ++
        if findings.isEmpty then "No unreferenced symbols found. Great job!"
        else String.join (findings.map Finding.item) := rfl
  have hend : " potentially unreferenced symbols:\n\n".toList =
      " potentially unreferenced symbols:".toList ++ ['\n', '\n'] := rfl
  rw [hmarkdown, markdownLines]
  split
  · rw [List.intercalate_cons_cons, List.intercalate_cons_cons, List.intercalate_singleton]
    simp only [String.toList_append, toList_natural, hend, List.append_assoc, List.nil_append,
      List.cons_append]
  · rw [List.intercalate_cons_cons, List.intercalate_cons_of_ne_nil (itemLines_ne_nil findings),
      intercalate_itemLines]
    simp only [String.toList_append, toList_natural, hend, List.append_assoc, List.nil_append,
      List.cons_append]

theorem newline_not_mem_markdownLines {findings : List Finding}
    (h : ∀ f ∈ findings, f.IsPlain) : ∀ line ∈ markdownLines findings, '\n' ∉ line := by
  have hitems : ∀ line ∈ itemLines findings, '\n' ∉ line := by
    intro line hline
    rcases List.mem_append.1 hline with hline | hline
    · obtain ⟨f, hf, hline⟩ := List.mem_flatMap.1 hline
      simp only [List.mem_cons, List.not_mem_nil, or_false] at hline
      rcases hline with rfl | rfl | rfl
      · exact (h f hf).newline_itemHead
      · exact (h f hf).newline_itemPlace
      · exact List.not_mem_nil
    · rw [List.mem_singleton.1 hline]
      exact List.not_mem_nil
  intro line hline
  rcases List.mem_cons.1 hline with rfl | hline
  · simp only [List.mem_append, not_or]
    exact ⟨by decide, newline_not_mem_toDigits _, by decide⟩
  · rcases List.mem_cons.1 hline with rfl | hline
    · exact List.not_mem_nil
    · split at hline
      · rw [List.mem_singleton.1 hline]
        decide
      · exact hitems line hline

theorem readItems_itemLines {findings : List Finding} (h : ∀ f ∈ findings, f.IsPlain) :
    readItems? (itemLines findings) = some findings := by
  induction findings with
  | nil => rfl
  | cons f rest ih =>
    obtain ⟨hf, hrest⟩ := List.forall_mem_cons.1 h
    rw [itemLines_cons, readItems?, hf.readItem, ih hrest]
    · rfl

/-- **The findings are read back from the list in Markdown**, and so is their number. -/
theorem readMarkdown_markdown {findings : List Finding} (h : ∀ f ∈ findings, f.IsPlain) :
    readMarkdown? (markdown findings) = some (findings.length, findings) := by
  have hlines : (markdown findings).toList.splitOn '\n' = markdownLines findings := by
    rw [toList_markdown]
    exact List.splitOn_intercalate '\n' (newline_not_mem_markdownLines h) (List.cons_ne_nil _ _)
  rw [readMarkdown?, hlines, markdownLines]
  simp only [between_append, readNumber_toDigits, bind, Option.bind]
  cases findings with
  | nil => rfl
  | cons f rest =>
    have hmore : itemLines (f :: rest) ≠ ["No unreferenced symbols found. Great job!".toList] := by
      rw [itemLines_cons]
      intro heq
      exact absurd (List.cons.inj heq).2 (List.cons_ne_nil _ _)
    simp only [List.isEmpty_cons, Bool.false_eq_true, if_false, if_neg hmore,
      readItems_itemLines h]

/-! ## The log -/

/-- The lines of the log, and the empty line at the end of the text. -/
def logTextLines (findings : List Finding) : List (List Char) :=
  findings.map Finding.logLine ++
    [[], "→ Found ".toList ++ (Nat.toDigits 10 findings.length ++
      " unreferenced symbols.".toList), []]

theorem intercalate_ended (lines : List String) :
    List.intercalate ['\n'] (lines.map String.toList ++ [[]]) =
      (String.join (lines.map (· ++ "\n"))).toList := by
  induction lines with
  | nil => rfl
  | cons line rest ih =>
    have hne : rest.map String.toList ++ [[]] ≠ [] :=
      List.append_ne_nil_of_right_ne_nil _ (List.cons_ne_nil _ _)
    rw [List.map_cons, List.cons_append, List.intercalate_cons_of_ne_nil hne, ih, List.map_cons,
      String.join_cons, String.toList_append, String.toList_append]
    rfl

theorem toList_logText (findings : List Finding) :
    (logText findings).toList = List.intercalate ['\n'] (logTextLines findings) := by
  have htotal : (s!"→ Found {findings.length} unreferenced symbols.").toList =
      "→ Found ".toList ++
        (Nat.toDigits 10 findings.length ++ " unreferenced symbols.".toList) := by
    have hwords : s!"→ Found {findings.length} unreferenced symbols." =
      "→ Found " ++ toString findings.length ++ " unreferenced symbols." := rfl
    rw [hwords]
    simp only [String.toList_append, toList_natural, List.append_assoc]
  have hfound : (findings.map Finding.text).map String.toList = findings.map Finding.logLine := by
    rw [List.map_map]
    exact List.map_congr_left fun f _ => f.toList_text
  have hlines : logTextLines findings = (logLines findings).map String.toList ++ [[]] := by
    rw [logTextLines, logLines, List.map_append, hfound, List.append_assoc, ← htotal]
    rfl
  rw [hlines, intercalate_ended, logText]

theorem newline_not_mem_logTextLines {findings : List Finding}
    (h : ∀ f ∈ findings, f.IsPlain) : ∀ line ∈ logTextLines findings, '\n' ∉ line := by
  intro line hline
  rcases List.mem_append.1 hline with hline | hline
  · obtain ⟨f, hf, rfl⟩ := List.mem_map.1 hline
    exact (h f hf).newline_logLine
  · simp only [List.mem_cons, List.not_mem_nil, or_false] at hline
    rcases hline with rfl | rfl | rfl
    · exact List.not_mem_nil
    · simp only [List.mem_append, not_or]
      exact ⟨by decide, newline_not_mem_toDigits _, by decide⟩
    · exact List.not_mem_nil

theorem mapM_readLogLine {findings : List Finding} (h : ∀ f ∈ findings, f.IsPlain)
    (hcolon : ∀ f ∈ findings, ':' ∉ f.file.toList) :
    (findings.map Finding.logLine).mapM readLogLine? = some findings := by
  induction findings with
  | nil => rfl
  | cons f rest ih =>
    obtain ⟨hf, hrest⟩ := List.forall_mem_cons.1 h
    obtain ⟨hfile, hfiles⟩ := List.forall_mem_cons.1 hcolon
    rw [List.map_cons, List.mapM_cons, hf.readLogLine hfile, ih hrest hfiles]
    rfl

/-- **The findings are read back from the log**, and so is their number, if no path has a colon. -/
theorem readLog_logText {findings : List Finding} (h : ∀ f ∈ findings, f.IsPlain)
    (hcolon : ∀ f ∈ findings, ':' ∉ f.file.toList) :
    readLog? (logText findings) = some (findings.length, findings) := by
  have hlines : (logText findings).toList.splitOn '\n' = logTextLines findings := by
    rw [toList_logText]
    exact List.splitOn_intercalate '\n' (newline_not_mem_logTextLines h)
      (List.append_ne_nil_of_right_ne_nil _ (List.cons_ne_nil _ _))
  -- the lines of findings are not empty, and an empty line follows them
  have hfull : ∀ line ∈ findings.map Finding.logLine, (!line.isEmpty) = true := by
    intro line hline
    obtain ⟨f, -, rfl⟩ := List.mem_map.1 hline
    rw [f.isEmpty_logLine]
    rfl
  have hread := mapM_readLogLine h hcolon
  rw [readLog?, hlines, logTextLines, List.dropWhile_append_of_pos hfull,
    List.takeWhile_append_of_pos hfull]
  simp only [List.takeWhile_cons, List.dropWhile_cons, List.isEmpty_nil, Bool.not_true,
    Bool.false_eq_true, if_false, List.append_nil, hread, between_append, readNumber_toDigits,
    Option.bind_eq_bind, Option.bind_some]

/-! ## The reports of an outcome -/

theorem readJsonReport_jsonReport {outcome : Outcome} (h : outcome.Fits) :
    readJsonReport? (jsonReport outcome) = some (outcome.findings.length, outcome.findings) := by
  rw [readJsonReport?, ofBytes_jsonReport h]
  simp only [Option.bind_eq_bind, Option.bind_some, statedFindings_jsonContent,
    ofContent_jsonContent]

/-- **The reports are unambiguous and agree.** Findings as scans make them, with names and paths
that have no line feeds, have another list in Markdown than any other such findings, and if no path
has a colon, another log. So the same findings are recovered from all reports of an outcome, and
each states their number. -/
theorem reports_unambiguous :
    (∀ xs ys : List Finding, (∀ f ∈ xs, f.IsPlain) → (∀ f ∈ ys, f.IsPlain) →
      markdown xs = markdown ys → xs = ys) ∧
    (∀ xs ys : List Finding, (∀ f ∈ xs, f.IsPlain ∧ ':' ∉ f.file.toList) →
      (∀ f ∈ ys, f.IsPlain ∧ ':' ∉ f.file.toList) → logText xs = logText ys → xs = ys) ∧
    ∀ outcome : Outcome, outcome.Fits → (∀ f ∈ outcome.findings, f.IsPlain) →
      let told := some (outcome.findings.length, outcome.findings)
      readMarkdown? (ReportFormat.markdown.render outcome) = told ∧
        readJsonReport? (ReportFormat.json.render outcome) = told ∧
        ((∀ f ∈ outcome.findings, ':' ∉ f.file.toList) →
          readLog? (logText outcome.findings) = told) := by
  refine ⟨?_, ?_, ?_⟩
  · intro xs ys hxs hys hsame
    have hread := readMarkdown_markdown hxs
    rw [hsame, readMarkdown_markdown hys] at hread
    exact (Prod.mk.inj (Option.some.inj hread)).2.symm
  · intro xs ys hxs hys hsame
    have hread := readLog_logText (fun f hf => (hxs f hf).1) fun f hf => (hxs f hf).2
    rw [hsame, readLog_logText (fun f hf => (hys f hf).1) fun f hf => (hys f hf).2] at hread
    exact (Prod.mk.inj (Option.some.inj hread)).2.symm
  · intro outcome hfits hplain told
    exact ⟨readMarkdown_markdown hplain, readJsonReport_jsonReport hfits, readLog_logText hplain⟩

/-- Names and paths that look like parts of a report are read back as they are. -/
theorem reports_unambiguous_disguised :
    let findings : List Finding :=
      [⟨"f (class)\r: x", "/a (Line 3)/b.dart", 7, "method"⟩,
        ⟨"- class: C", "/lib/  File: (Line 1)", 0, "other"⟩]
    let outcome : Outcome := { findings := findings, filesTotal := 1, filesScanned := 1 }
    outcome.Fits ∧ (∀ f ∈ findings, f.IsPlain) ∧
      readMarkdown? (markdown findings) = some (2, findings) ∧
      readMarkdown? (markdown []) = some (0, []) ∧ markdown findings ≠ markdown [] := by
  intro findings outcome
  have hfits : outcome.Fits := ⟨by decide, by decide, by decide, by decide, by decide⟩
  have hplain : ∀ f ∈ findings, f.IsPlain := by
    intro f hf
    simp only [findings, List.mem_cons, List.not_mem_nil, or_false] at hf
    rcases hf with rfl | rfl
    · exact ⟨⟨⟨6⟩, rfl⟩, by decide, by decide⟩
    · exact ⟨⟨⟨0⟩, rfl⟩, by decide, by decide⟩
  obtain ⟨hdistinct, -, hread⟩ := reports_unambiguous
  have hnone : ∀ f ∈ ([] : List Finding), f.IsPlain := fun f hf => absurd hf List.not_mem_nil
  refine ⟨hfits, hplain, (hread outcome hfits hplain).1, readMarkdown_markdown hnone, ?_⟩
  intro hsame
  exact absurd (hdistinct _ [] hplain hnone hsame) (by decide)

end DeadSymbols
