import DeadSymbols.CommandLine.Options
import DeadSymbols.Proofs.Folders
import Mathlib.Data.List.Sort

/-!
# Patterns to exclude

The rule of a pattern to exclude is made of a line that starts with an exclamation mark, so
whatever the pattern is, the rule has this mark and leaves out what fits it. Among such rules the
order does not count, and none of them brings back what ignore files leave out. A search with
patterns therefore finds what a search without them finds, less the files that one of the patterns
excludes.

* `Ignore.overruling_of_keeps`: what the rules of patterns say.
* `Discovery.Filter.admits_iff`: patterns on the way down.
* `filesIn_eq_filter`, `searchExcluding_eq`: what is found, pattern by pattern.
* `exclusions_combine`: how lists of patterns combine.
-/

namespace DeadSymbols

/-! ## Rules with an exclamation mark -/

namespace Ignore

variable {rules : List Rule} {path : List UInt8} {isFolder lenient : Bool}

/-- White space at the end of a line is trimmed, but never an exclamation mark at its start. -/
theorem trimLine_bang (cs : List Char) : ∃ rest, trimLine ('!' :: cs) = '!' :: rest := by
  rw [trimLine]
  split
  case h_1 => exact ⟨cs, rfl⟩
  case h_2 =>
    rw [Text.trimEndChars, List.reverse_cons, List.dropWhile_append]
    split
    · exact ⟨[], rfl⟩
    · exact ⟨_, List.reverse_append⟩

/-- A line that starts with an exclamation mark holds a pattern with the mark. What the pattern
itself starts or ends with makes no difference to that. -/
theorem Rule.ofLine_bang (lenient : Bool) (cs : List Char) :
    ∃ anchored rest, ofLine lenient ('!' :: cs) = ofPattern lenient true anchored rest := by
  obtain ⟨rest, hrest⟩ := trimLine_bang cs
  rw [ofLine, hrest]
  · split
    case h_1 hnil => cases hnil
    case h_2 hescaped => cases hescaped
    case h_3 hescaped => cases hescaped
    case h_4 rest' hanchored => exact ⟨true, rest', rfl⟩
    case h_5 rest' _ hplain => exact ⟨false, rest', rfl⟩
    case h_6 hslash => cases hslash
    -- no other case is left, as the mark is still there
    case h_7 hmark _ => exact absurd rfl (hmark rest)
  · nofun

theorem Rule.ofPattern_keeps {keeps anchored : Bool} {cs : List Char} {r : Rule}
    (h : ofPattern lenient keeps anchored cs = .rule r) : r.keeps = keeps := by
  rw [ofPattern] at h
  dsimp only at h
  split at h
  · cases h
    rfl
  · cases h

/-- **Rules of lines that start with an exclamation mark have the mark.** -/
theorem Rule.keeps_of_bang {cs : List Char} {r : Rule}
    (h : ofLine lenient ('!' :: cs) = .rule r) : r.keeps = true := by
  obtain ⟨anchored, rest, hline⟩ := ofLine_bang lenient cs
  rw [hline] at h
  exact ofPattern_keeps h

/-- A line that starts with an exclamation mark is never blank. -/
theorem Rule.ofLine_bang_ne_blank (lenient : Bool) (cs : List Char) :
    ofLine lenient ('!' :: cs) ≠ .blank := by
  obtain ⟨anchored, rest, hline⟩ := ofLine_bang lenient cs
  rw [hline, ofPattern]
  dsimp only
  split <;> nofun

/-- Where all rules have the mark, any of them that fits a path decides. -/
theorem verdict_of_keeps (h : ∀ r ∈ rules, r.keeps) : verdict rules path isFolder =
    if rules.any (·.fits path isFolder) then some .kept else none := by
  rw [verdict]
  cases hfind : rules.reverse.find? (·.fits path isFolder) with
  | none =>
    rw [if_neg]
    · rfl
    · intro hany
      obtain ⟨r, hr, hfits⟩ := List.any_eq_true.1 hany
      exact List.find?_eq_none.1 hfind r (List.mem_reverse.2 hr) hfits
  | some r =>
    have hr := List.mem_reverse.1 (List.mem_of_find?_eq_some hfind)
    rw [if_pos (List.any_eq_true.2 ⟨r, hr, List.find?_some hfind⟩), Option.map_some, Rule.verdict,
      if_pos (h r hr)]

/-- **Rules that all have the mark leave out what fits one of them**, and say nothing about the
rest. -/
theorem overruling_of_keeps (h : ∀ r ∈ rules, r.keeps) : overruling rules path isFolder =
    if rules.any (·.fits path isFolder) then some .ignored else none := by
  have hplain : rules.any (!·.keeps) = false := by
    rw [List.any_eq_false]
    intro r hr
    rw [h r hr]
    exact Bool.false_ne_true
  rw [overruling, verdict_of_keeps h, hplain]
  cases rules.any (·.fits path isFolder) <;> rfl

/-- Whether a rule fits the file to which some names lead, or a folder on the way to it. The names
`above` lead to where the way begins. -/
def Rule.fitsOnWay (r : Rule) (above : List String) : List String → Bool
  | [] => false
  | [name] => r.fits (pathBelow [] (above ++ [name])) false
  | name :: next :: rest =>
    r.fits (pathBelow [] (above ++ [name])) true ||
      r.fitsOnWay (above ++ [name]) (next :: rest)

end Ignore

/-! ## On the way down -/

namespace Discovery

variable {filter : Filter} {layers : List Ignore.Layer}

/-- The filter without the rules of patterns. -/
def Filter.unruled (filter : Filter) : Filter := { filter with excluded := [] }

/-- All rules of patterns leave out what fits them. -/
def Filter.OnlyExcludes (filter : Filter) : Prop := ∀ r ∈ filter.excluded, r.keeps

/-- A pattern whose rule fits an entry leaves it out, whatever ignore files say about it. -/
theorem Filter.leavesOut_iff (h : filter.OnlyExcludes) {above : List String} {name : String}
    {isFolder : Bool} :
    filter.leavesOut layers (filter.root ++ above) name isFolder = false ↔
      filter.unruled.leavesOut layers (filter.root ++ above) name isFolder = false ∧
        ∀ r ∈ filter.excluded, r.fits (Ignore.pathBelow [] above) isFolder = false := by
  have hpath : Ignore.pathBelow filter.root (filter.root ++ above) =
      Ignore.pathBelow [] above := by
    rw [Ignore.pathBelow, List.drop_left]
    rfl
  have hnone : (∀ r ∈ filter.excluded, r.fits (Ignore.pathBelow [] above) isFolder = false) ↔
      filter.excluded.any (·.fits (Ignore.pathBelow [] above) isFolder) = false := by
    simp only [List.any_eq_false, Bool.not_eq_true]
  rw [leavesOut, Ignore.overruling_of_keeps h, hpath, hnone]
  cases filter.excluded.any (·.fits (Ignore.pathBelow [] above) isFolder) with
  | true => exact iff_of_false (fun h => Bool.noConfusion h) fun h => Bool.noConfusion h.2
  | false => exact (and_iff_left rfl).symm

/-- **What a filter with patterns admits**: what it admits without them, unless a pattern fits the
file or a folder on the way. The induction is on the names below, and takes one after another over
to those above. -/
theorem Filter.admits_iff (h : filter.OnlyExcludes) {above below : List String} :
    filter.admits layers (filter.root ++ above) below ↔
      filter.unruled.admits layers (filter.root ++ above) below ∧
        ∀ r ∈ filter.excluded, r.fitsOnWay above below = false := by
  induction below generalizing layers above with
  | nil => exact iff_of_false nofun nofun
  | cons name rest ih =>
    cases rest with
    | nil =>
      simp only [admits, List.append_assoc, Bool.and_eq_true, Bool.not_eq_true', leavesOut_iff h,
        Ignore.Rule.fitsOnWay]
      exact and_assoc.symm
    | cons next rest =>
      simp only [admits, List.append_assoc, Bool.and_eq_true, Bool.not_eq_true', leavesOut_iff h,
        Ignore.Rule.fitsOnWay, Bool.or_eq_false_iff, forall_and]
      rw [ih]
      exact and_and_and_comm

/-- **What a search with patterns finds**: what it finds without them, less the files that one of
the patterns fits, or fits on the way. -/
theorem Filter.sources_eq_filter (h : filter.OnlyExcludes) (hsound : filter.tree.IsSound)
    {es : List (String × Entry)} (hfolder : filter.tree.get? filter.root = some (.folder es)) :
    filter.sources = filter.unruled.sources.filter fun names =>
      filter.excluded.all fun r => !r.fitsOnWay [] (names.drop filter.root.length) := by
  -- both are in strict order, so that it is enough that they have the same members
  have hordered := filter.unruled.sources_ordered hsound
  refine (filter.sources_ordered hsound).eq_of_mem_iff (hordered.filter _) ?_
  intro names
  rw [List.mem_filter, filter.mem_sources hsound hfolder,
    filter.unruled.mem_sources hsound hfolder]
  have hadmits : ∀ below, filter.admits filter.outermost filter.root below ↔
      filter.unruled.admits filter.outermost filter.root below ∧
        ∀ r ∈ filter.excluded, r.fitsOnWay [] below = false := by
    intro below
    rw [← List.append_nil filter.root]
    exact filter.admits_iff h
  have hspared : ∀ below, (filter.excluded.all fun r =>
      !r.fitsOnWay [] ((filter.root ++ below).drop filter.root.length)) = true ↔
        ∀ r ∈ filter.excluded, r.fitsOnWay [] below = false := by
    intro below
    simp only [List.drop_left, List.all_eq_true, Bool.not_eq_true']
  constructor
  · rintro ⟨below, content, hget, hbelow, rfl⟩
    obtain ⟨hplain, hrules⟩ := (hadmits below).1 hbelow
    exact ⟨⟨below, content, hget, hplain, rfl⟩, (hspared below).2 hrules⟩
  · rintro ⟨⟨below, content, hget, hplain, rfl⟩, hrules⟩
    exact ⟨below, content, hget, (hadmits below).2 ⟨hplain, (hspared below).1 hrules⟩, rfl⟩

end Discovery

/-! ## Rules of patterns -/

variable {config : Config} {tree : FileTree} {folders patterns : List String}

/-- The rule of a pattern to exclude. -/
def excludeRule? (pattern : String) : Option Ignore.Rule :=
  match Ignore.Rule.ofLine false ('!' :: pattern.toList) with
  | .rule r => some r
  | _ => none

theorem keeps_of_excludeRule? {pattern : String} {r : Ignore.Rule}
    (h : excludeRule? pattern = some r) : r.keeps = true := by
  rw [excludeRule?] at h
  split at h
  case h_1 r' hline =>
    cases h
    exact Ignore.Rule.keeps_of_bang hline
  case h_2 => cases h

/-- **Every pattern has a rule of its own**; none is passed over. -/
theorem excludeRules_eq (h : ∀ p ∈ patterns, IsExcludePattern p) :
    excludeRules patterns = .ok (patterns.filterMap excludeRule?) := by
  induction patterns with
  | nil => rfl
  | cons pattern rest ih =>
    obtain ⟨hpattern, hrest⟩ := List.forall_mem_cons.1 h
    rw [excludeRules, List.filterMap_cons, excludeRule?, ih hrest]
    cases hline : Ignore.Rule.ofLine false ('!' :: pattern.toList) with
    | invalid => exact absurd hline hpattern
    | blank => exact absurd hline (Ignore.Rule.ofLine_bang_ne_blank _ _)
    | rule r => rfl

/-- The first text that is no pattern is the one that is reported. -/
theorem excludeRules_invalid {before after : List String} {bad : String}
    (hbefore : ∀ p ∈ before, IsExcludePattern p) (hbad : ¬ IsExcludePattern bad) :
    excludeRules (before ++ bad :: after) = .error ⟨bad⟩ := by
  induction before with
  | nil => rw [List.nil_append, excludeRules, not_not.1 hbad]
  | cons pattern rest ih =>
    obtain ⟨hpattern, hrest⟩ := List.forall_mem_cons.1 hbefore
    rw [List.cons_append, excludeRules, ih hrest]
    cases hline : Ignore.Rule.ofLine false ('!' :: pattern.toList) with
    | invalid => exact absurd hline hpattern
    | blank => rfl
    | rule r => rfl

/-! ## Files -/

/-- The names in an absolute path. -/
def Path.names (path : String) : List String := (pieces path).filter (· != "")

theorem Path.names_ofNames {names : List String} (h : ∀ name ∈ names, IsEntryName name) :
    Path.names (ofNames names) = names := by
  by_cases hnil : names = []
  · rw [hnil]
    decide
  · rw [Path.names, pieces_ofNames (fun name hname => (h name hname).slash) hnil,
      List.filter_cons_of_neg (by decide), List.filter_eq_self]
    intro name hname
    exact bne_iff_ne.2 (h name hname).ne_empty

/-- The names that lead to a file from the folder in which it was found. -/
def SourceFile.below (file : SourceFile) : List String :=
  (Path.names file.path).drop (Path.names file.root).length

/-- Whether a pattern excludes a file: its rule fits the file or a folder on the way to it from the
folder in which the file was found. -/
def excludes (pattern : String) (file : SourceFile) : Bool :=
  (excludeRule? pattern).any (·.fitsOnWay [] file.below)

/-- **What patterns leave of the files in a folder**: those that none of them excludes. -/
theorem filesIn_eq_filter (hsound : tree.IsSound) (patterns : List String) (folder : String) :
    filesIn config tree (patterns.filterMap excludeRule?) folder =
      (filesIn config tree [] folder).filter fun file => patterns.all (!excludes · file) := by
  by_cases hleads : ∃ root, tree.LeadsToFolder folder root
  · obtain ⟨root, hleads⟩ := hleads
    have hfolder := hleads
    obtain ⟨es, hes⟩ := hleads
    have hget := FileTree.get?_of_locate hes
    have hexcludes : (searchFilter config tree (patterns.filterMap excludeRule?)
        root).OnlyExcludes := by
      intro r hr
      obtain ⟨pattern, -, hrule⟩ := List.mem_filterMap.1 hr
      exact keeps_of_excludeRule? hrule
    rw [filesIn_folder hfolder, filesIn_folder hfolder,
      Discovery.Filter.sources_eq_filter hexcludes hsound hget, List.filter_map]
    refine congrArg (List.map _) (List.filter_congr ?_)
    intro names hnames
    have hnamed : ∀ name ∈ names, IsEntryName name := by
      obtain ⟨below, content, -, hfile, hnames⟩ :=
        (searchFilter config tree _ root).unruled.sources_below hsound hget hnames
      rw [hnames]
      exact hsound.names hfile
    have hbelow : SourceFile.below ⟨Path.ofNames names, Path.ofNames root⟩ =
        names.drop root.length := by
      rw [SourceFile.below, Path.names_ofNames hnamed, Path.names_ofNames (hsound.names hget)]
    simp only [searchFilter, List.all_filterMap, Function.comp, excludes, hbelow]
    refine congrArg (patterns.all ·) (funext fun pattern => ?_)
    cases excludeRule? pattern <;> rfl
  · rw [(filesIn_skipped _ _ hleads).1, (filesIn_skipped _ _ hleads).1]
    rfl

/-! ## Searches -/

/-- A search with some patterns to exclude in which repeated files are not left out. -/
def searchExcluding (config : Config) (tree : FileTree) (folders patterns : List String) :
    Except InvalidPattern (List SourceFile) × List Notice :=
  findFiles { config with exclude := patterns, deduplicate := false } tree folders

/-- **What a search with patterns finds**, in the order in which a search without any finds it. -/
theorem searchExcluding_eq (config : Config) (hsound : tree.IsSound) (folders : List String)
    (h : ∀ p ∈ patterns, IsExcludePattern p) : searchExcluding config tree folders patterns =
      (.ok ((folders.flatMap (filesIn config tree [])).filter fun file =>
          patterns.all (!excludes · file)),
        folders.flatMap (noticesOn tree)) := by
  have hrules : excludeRules { config with exclude := patterns, deduplicate := false }.exclude =
      .ok (patterns.filterMap excludeRule?) := excludeRules_eq h
  have hfiles : filesIn { config with exclude := patterns, deduplicate := false } tree
      (patterns.filterMap excludeRule?) = fun folder =>
        (filesIn config tree [] folder).filter fun file => patterns.all (!excludes · file) :=
    funext (filesIn_eq_filter hsound patterns)
  rw [searchExcluding, findFiles_eq _ hrules, List.filter_flatMap, hfiles]
  rfl

/-- **Further patterns** leave a part of what is found without them, in the same order. -/
theorem searchExcluding_append (config : Config) (hsound : tree.IsSound) (folders : List String)
    {more : List String} {files : List SourceFile}
    (h : (searchExcluding config tree folders (patterns ++ more)).1 = .ok files) :
    ∃ all, (searchExcluding config tree folders patterns).1 = .ok all ∧ files.Sublist all := by
  by_cases hleads : ∃ folder ∈ folders, ∃ root, tree.LeadsToFolder folder root
  · have hvalid : ∀ p ∈ patterns ++ more, IsExcludePattern p :=
      exists_excludeRules_iff.1 (exists_rules_of_findFiles h hleads)
    refine ⟨_, congrArg Prod.fst (searchExcluding_eq config hsound folders
      fun p hp => hvalid p (List.mem_append_left more hp)), ?_⟩
    rw [searchExcluding_eq config hsound folders hvalid] at h
    cases h
    have hboth : ∀ file : SourceFile, (patterns ++ more).all (!excludes · file) =
        (more.all (!excludes · file) && patterns.all (!excludes · file)) := by
      intro file
      rw [List.all_append, Bool.and_comm]
    simp only [hboth, ← List.filter_filter]
    exact List.filter_sublist
  · rw [searchExcluding, findFiles_nowhere hleads] at h ⊢
    exact ⟨files, h, List.Sublist.refl _⟩

/-- How lists of patterns combine in searches of some folders. -/
structure ExclusionsCombine (config : Config) (tree : FileTree) (folders : List String) :
    Prop where
  /-- What patterns remove are the files that one of them excludes, and nothing else changes. -/
  removes : ∀ xs : List String, (∀ p ∈ xs, IsExcludePattern p) → ∃ all,
    (searchExcluding config tree folders []).1 = .ok all ∧
    (searchExcluding config tree folders xs).1 =
      .ok (all.filter fun file => xs.all (!excludes · file))
  /-- Two lists together leave what each of them leaves. -/
  both : ∀ xs ys : List String, (∀ p ∈ xs ++ ys, IsExcludePattern p) → ∃ left right found,
    (searchExcluding config tree folders xs).1 = .ok left ∧
    (searchExcluding config tree folders ys).1 = .ok right ∧
    (searchExcluding config tree folders (xs ++ ys)).1 = .ok found ∧
    found.Sublist left ∧ ∀ file, file ∈ found ↔ file ∈ left ∧ file ∈ right
  /-- Neither the order of patterns nor their repetition makes a difference. -/
  alike : ∀ xs ys : List String, (∀ p ∈ xs, IsExcludePattern p) → (∀ p, p ∈ xs ↔ p ∈ ys) →
    searchExcluding config tree folders xs = searchExcluding config tree folders ys
  /-- A further pattern on the command line, valid or not, never makes a file appear. -/
  option : ∀ (o : CommandLine.Options) (pattern : String),
    (o.applyTo config).deduplicate = false → ∃ o', o.take (.setting .exclude pattern) = .ok o' ∧
      ∀ files, (findFiles (o'.applyTo config) tree folders).1 = .ok files →
        ∃ all, (findFiles (o.applyTo config) tree folders).1 = .ok all ∧ files.Sublist all
  /-- The first text that is no pattern is reported if there is a folder to search, and nothing is
  found if there is none. -/
  invalid : ∀ (before : List String) (bad : String) (after : List String),
    (∀ p ∈ before, IsExcludePattern p) → ¬ IsExcludePattern bad →
    config.exclude = before ++ bad :: after →
      ((∃ folder ∈ folders, ∃ root, tree.LeadsToFolder folder root) →
        (findFiles config tree folders).1 = .error ⟨bad⟩) ∧
      ∀ files, (findFiles config tree folders).1 = .ok files → files = []

/-- **Patterns to exclude only remove files, each on its own.** -/
theorem exclusions_combine (config : Config) {tree : FileTree} (hsound : tree.IsSound)
    (folders : List String) : ExclusionsCombine config tree folders where
  removes := by
    intro xs hvalid
    have hall := searchExcluding_eq config hsound folders (List.forall_mem_nil IsExcludePattern)
    refine ⟨_, congrArg Prod.fst hall, ?_⟩
    rw [searchExcluding_eq config hsound folders hvalid, List.filter_filter]
    simp only [List.all_nil, Bool.and_true]
  both := by
    intro xs ys hvalid
    have hxs := searchExcluding_eq config hsound folders
      fun p hp => hvalid p (List.mem_append_left ys hp)
    have hys := searchExcluding_eq config hsound folders
      fun p hp => hvalid p (List.mem_append_right xs hp)
    have hboth := searchExcluding_eq config hsound folders hvalid
    have hfound := congrArg Prod.fst hboth
    obtain ⟨left, hleft, hsublist⟩ := searchExcluding_append config hsound folders hfound
    refine ⟨left, _, _, hleft, congrArg Prod.fst hys, hfound, hsublist, ?_⟩
    intro file
    rw [hxs] at hleft
    cases hleft
    simp only [List.mem_filter, List.all_append, Bool.and_eq_true]
    exact and_and_left
  alike := by
    intro xs ys hvalid hmem
    rw [searchExcluding_eq config hsound folders hvalid, searchExcluding_eq config hsound folders
      fun p hp => hvalid p ((hmem p).2 hp)]
    have hall : ∀ file : SourceFile,
        xs.all (!excludes · file) = ys.all (!excludes · file) := by
      intro file
      rw [Bool.eq_iff_iff, List.all_eq_true, List.all_eq_true]
      simp only [hmem]
    simp only [hall]
  option := by
    intro o pattern hkeep
    refine ⟨_, rfl, ?_⟩
    intro files hfiles
    have hself : ∀ patterns, searchExcluding (o.applyTo config) tree folders patterns =
        findFiles { o.applyTo config with exclude := patterns } tree folders := by
      intro patterns
      rw [searchExcluding, ← hkeep]
    have hmore : (searchExcluding (o.applyTo config) tree folders
        ((o.applyTo config).exclude ++ [pattern])).1 = .ok files := by
      rw [hself, ← hfiles]
      simp only [CommandLine.Options.applyTo, List.append_assoc]
    obtain ⟨all, hall, hsublist⟩ := searchExcluding_append _ hsound folders hmore
    rw [hself] at hall
    exact ⟨all, hall, hsublist⟩
  invalid := by
    intro before bad after hbefore hbad hexclude
    have hfault : excludeRules config.exclude = .error ⟨bad⟩ := by
      rw [hexclude]
      exact excludeRules_invalid hbefore hbad
    refine ⟨findFiles_invalid hfault, ?_⟩
    intro files hfiles
    by_cases hleads : ∃ folder ∈ folders, ∃ root, tree.LeadsToFolder folder root
    · rw [findFiles_invalid hfault hleads] at hfiles
      cases hfiles
    · rw [findFiles_nowhere hleads] at hfiles
      exact (Except.ok.inj hfiles).symm

theorem exclusions_combine_aliased :
    aliasedTree.IsSound ∧ (∀ p ∈ ["/lib/b.dart", "#c/"] ++ ["!a.dart"], IsExcludePattern p) ∧
      ¬ IsExcludePattern "[" ∧ ∃ left right found,
      (searchExcluding {} aliasedTree ["app", "app/again"] ["/lib/b.dart", "#c/"]).1 = .ok left ∧
      (searchExcluding {} aliasedTree ["app", "app/again"] ["!a.dart"]).1 = .ok right ∧
      (searchExcluding {} aliasedTree ["app", "app/again"]
        (["/lib/b.dart", "#c/"] ++ ["!a.dart"])).1 = .ok found ∧
      found.Sublist left ∧ (∀ file, file ∈ found ↔ file ∈ left ∧ file ∈ right) ∧
      (findFiles { exclude := ["*.g.dart", "["] } aliasedTree ["/work"]).1 = .error ⟨"["⟩ := by
  have hvalid : ∀ p ∈ ["/lib/b.dart", "#c/"] ++ ["!a.dart"], IsExcludePattern p := by
    decide +kernel
  have hbad : ¬ IsExcludePattern "[" := by decide +kernel
  have hfirst : ∀ p ∈ ["*.g.dart"], IsExcludePattern p := by decide +kernel
  have hleads : ∃ folder ∈ ["/work"], ∃ root, aliasedTree.LeadsToFolder folder root := by
    have hcanonical := FileTree.isCanonical_ofNames isSound_aliasedTree
      (show aliasedTree.get? ["work"] = some _ from rfl) nofun nofun
    exact ⟨"/work", List.mem_cons_self, ["work"], _, hcanonical.located (by decide +kernel)⟩
  have hcombine := exclusions_combine {} isSound_aliasedTree ["app", "app/again"]
  obtain ⟨left, right, found, hleft, hright, hfound, hsublist, hmem⟩ := hcombine.both _ _ hvalid
  have hinvalid := exclusions_combine { exclude := ["*.g.dart", "["] } isSound_aliasedTree ["/work"]
  exact ⟨isSound_aliasedTree, hvalid, hbad, left, right, found, hleft, hright, hfound, hsublist,
    hmem, (hinvalid.invalid ["*.g.dart"] "[" [] hfirst hbad rfl).1 hleads⟩

end DeadSymbols
