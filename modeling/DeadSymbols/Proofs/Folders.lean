import DeadSymbols.Discovery.Find
import DeadSymbols.Proofs.Enumeration
import DeadSymbols.Proofs.Utf8

/-!
# Searches of folders

A search of several folders gives, one after another, what a search of each folder alone gives.
Every file comes with its canonical path, so that a file which several folders reach has the same
path under each of them, and leaving out repeated paths leaves out repeated files.

* `filesUnderAll_eq`: a search of several folders.
* `filesIn_below`: files are given by their canonical paths.
* `withoutRepeats_eq`: which files are left if repeated paths are left out.
* `findFiles_gathers`: what a search of several folders gives.
* `findFiles_enumerates`: what a search of one folder finds, and in which order.
-/

namespace DeadSymbols

variable {config : Config} {tree : FileTree} {rules : List Ignore.Rule} {folders : List String}

/-! ## Patterns -/

/-- A text is a pattern of paths to exclude. -/
def IsExcludePattern (pattern : String) : Prop :=
  Ignore.Rule.ofLine false ('!' :: pattern.toList) ≠ .invalid

instance (pattern : String) : Decidable (IsExcludePattern pattern) :=
  match h : Ignore.Rule.ofLine false ('!' :: pattern.toList) with
  | .invalid => .isFalse fun hne => hne h
  | .blank => .isTrue fun heq => Ignore.Line.noConfusion (h.symm.trans heq)
  | .rule _ => .isTrue fun heq => Ignore.Line.noConfusion (h.symm.trans heq)

/-- There are rules for patterns exactly if each of them is one. -/
theorem exists_excludeRules_iff {patterns : List String} :
    (∃ rules, excludeRules patterns = .ok rules) ↔ ∀ p ∈ patterns, IsExcludePattern p := by
  induction patterns with
  | nil => exact iff_of_true ⟨[], rfl⟩ nofun
  | cons pattern rest ih =>
    rw [excludeRules, List.forall_mem_cons, ← ih, IsExcludePattern]
    cases Ignore.Rule.ofLine false ('!' :: pattern.toList) with
    | invalid => exact iff_of_false nofun fun h => h.1 rfl
    | blank => exact (and_iff_right nofun).symm
    | rule r =>
      rw [and_iff_right nofun]
      cases excludeRules rest with
      | error fault => exact iff_of_false nofun nofun
      | ok rules => exact iff_of_true ⟨_, rfl⟩ ⟨_, rfl⟩

/-! ## One folder after another -/

/-- The filter of a search below the folder to which some names lead. -/
def searchFilter (config : Config) (tree : FileTree) (rules : List Ignore.Rule)
    (root : List String) : Discovery.Filter :=
  ⟨tree, root, config.extensions, rules, config.respectIgnoreFiles⟩

/-- The source files under what a path leads to. -/
def filesIn (config : Config) (tree : FileTree) (rules : List Ignore.Rule) (folder : String) :
    List SourceFile :=
  match tree.locate folder with
  | .ok (root, .folder _) =>
    (searchFilter config tree rules root).sources.map fun names =>
      ⟨Path.ofNames names, Path.ofNames root⟩
  | _ => []

/-- What is said of a path that leads to no folder. -/
def noticesOn (tree : FileTree) (folder : String) : List Notice :=
  match tree.locate folder with
  | .ok (_, .folder _) => []
  | _ => [.skippedFolder folder]

/-- A path leads to a folder, links followed, and to the folder lead some names from the root. -/
def FileTree.LeadsToFolder (tree : FileTree) (path : String) (root : List String) : Prop :=
  ∃ entries, tree.locate path = .ok (root, .folder entries)

theorem filesIn_folder {folder : String} {root : List String} (h : tree.LeadsToFolder folder root) :
    filesIn config tree rules folder =
      (searchFilter config tree rules root).sources.map fun names =>
        ⟨Path.ofNames names, Path.ofNames root⟩ := by
  obtain ⟨es, hes⟩ := h
  rw [filesIn, hes]

theorem noticesOn_folder {folder : String} {root : List String}
    (h : tree.LeadsToFolder folder root) : noticesOn tree folder = [] := by
  obtain ⟨es, hes⟩ := h
  rw [noticesOn, hes]

/-- What leads to no folder holds no files and is warned of. -/
theorem filesIn_skipped (config : Config) (rules : List Ignore.Rule) {folder : String}
    (h : ¬ ∃ root, tree.LeadsToFolder folder root) :
    filesIn config tree rules folder = [] ∧ noticesOn tree folder = [.skippedFolder folder] := by
  rw [filesIn, noticesOn]
  split
  case h_1 root es hes => exact absurd ⟨root, es, hes⟩ h
  case h_2 => exact ⟨rfl, rfl⟩

/-- **A search of several folders** gives what is in them, one after another. -/
theorem filesUnderAll_eq (hrules : excludeRules config.exclude = .ok rules)
    (folders : List String) : filesUnderAll config tree folders =
      (.ok (folders.flatMap (filesIn config tree rules)), folders.flatMap (noticesOn tree)) := by
  induction folders with
  | nil => rfl
  | cons folder rest ih =>
    rw [List.flatMap_cons, List.flatMap_cons, filesUnderAll]
    split
    case h_1 root es hes =>
      rw [filesIn_folder ⟨es, hes⟩, noticesOn_folder ⟨es, hes⟩, filesUnder, hrules, ih]
      rfl
    case h_2 hother =>
      obtain ⟨hfiles, hnotices⟩ := filesIn_skipped config rules
        fun ⟨root, es, hes⟩ => hother root es hes
      rw [hfiles, hnotices, ih]
      rfl

/-- What a search gives if the patterns have rules. -/
theorem findFiles_eq (config : Config) (hrules : excludeRules config.exclude = .ok rules)
    (folders : List String) :
    findFiles config tree folders =
      (.ok (if config.deduplicate then
          withoutRepeats [] (folders.flatMap (filesIn config tree rules))
        else folders.flatMap (filesIn config tree rules)),
      folders.flatMap (noticesOn tree)) := by
  rw [findFiles, filesUnderAll_eq hrules]
  cases config.deduplicate <;> rfl

/-- A search of what leads to no folder finds nothing, whatever the patterns are. -/
theorem findFiles_nowhere (h : ¬ ∃ folder ∈ folders, ∃ root, tree.LeadsToFolder folder root) :
    (findFiles config tree folders).1 = .ok [] := by
  have hnothing : (filesUnderAll config tree folders).1 = .ok [] := by
    induction folders with
    | nil => rfl
    | cons folder rest ih =>
      have hrest := ih fun ⟨f, hf, hroot⟩ => h ⟨f, List.mem_cons_of_mem _ hf, hroot⟩
      rw [filesUnderAll]
      split
      case h_1 root es hes => exact absurd ⟨folder, List.mem_cons_self, root, es, hes⟩ h
      case h_2 => exact hrest
  simp only [findFiles, hnothing, Except.map, withoutRepeats, ite_self]

/-- A search of some folder fails where some text is no pattern. -/
theorem findFiles_invalid {fault : InvalidPattern}
    (hfault : excludeRules config.exclude = .error fault)
    (h : ∃ folder ∈ folders, ∃ root, tree.LeadsToFolder folder root) :
    (findFiles config tree folders).1 = .error fault := by
  have hfails : (filesUnderAll config tree folders).1 = .error fault := by
    induction folders with
    | nil => exact absurd h nofun
    | cons folder rest ih =>
      rw [filesUnderAll]
      split
      case h_1 => rw [filesUnder, hfault]; rfl
      case h_2 hother =>
        have hrest : ∃ folder ∈ rest, ∃ root, tree.LeadsToFolder folder root := by
          obtain ⟨f, hf, root, es, hes⟩ := h
          rcases List.mem_cons.1 hf with rfl | hf
          · exact absurd hes (hother root es)
          · exact ⟨f, hf, root, es, hes⟩
        exact ih hrest
  simp only [findFiles, hfails, Except.map, ite_self]

/-- **A search of some folder** that does not fail had patterns with rules. -/
theorem exists_rules_of_findFiles {files : List SourceFile}
    (h : (findFiles config tree folders).1 = .ok files)
    (hleads : ∃ folder ∈ folders, ∃ root, tree.LeadsToFolder folder root) :
    ∃ rules, excludeRules config.exclude = .ok rules := by
  cases hrules : excludeRules config.exclude with
  | ok rules => exact ⟨rules, rfl⟩
  | error fault =>
    rw [findFiles_invalid hrules hleads] at h
    cases h

/-- So had one that finds something. -/
theorem exists_rules_of_ne_nil {files : List SourceFile}
    (h : (findFiles config tree folders).1 = .ok files) (hne : files ≠ []) :
    ∃ rules, excludeRules config.exclude = .ok rules := by
  by_cases hleads : ∃ folder ∈ folders, ∃ root, tree.LeadsToFolder folder root
  · exact exists_rules_of_findFiles h hleads
  · rw [findFiles_nowhere hleads] at h
    exact absurd (Except.ok.inj h).symm hne

/-! ## Paths of files -/

/-- A file is strictly below a folder: its path is canonical and leads to a file with a content of
its own, and its names go on from those of the folder. -/
structure SourceFile.IsBelow (file : SourceFile) (tree : FileTree) (names : List String) :
    Prop where
  root : file.root = Path.ofNames names
  path : ∃ below content, below ≠ [] ∧
    tree.IsCanonical file.path (names ++ below) (.file content)

/-- **Files are given by their canonical paths**, and lie strictly below the folder. -/
theorem filesIn_below (hsound : tree.IsSound) {folder : String} {root : List String}
    (h : tree.LeadsToFolder folder root) {file : SourceFile}
    (hfile : file ∈ filesIn config tree rules folder) : file.IsBelow tree root := by
  rw [filesIn_folder h] at hfile
  obtain ⟨names, hnames, rfl⟩ := List.mem_map.1 hfile
  obtain ⟨es, hes⟩ := h
  obtain ⟨below, content, hbelow, hget, rfl⟩ :=
    (searchFilter config tree rules root).sources_below hsound (FileTree.get?_of_locate hes) hnames
  refine ⟨rfl, below, content, hbelow, ?_⟩
  exact FileTree.isCanonical_ofNames hsound hget nofun fun hnil =>
    absurd (List.append_eq_nil_iff.1 hnil).2 hbelow

/-! ## Repeated files -/

/-- The files whose path comes no earlier in the list. -/
def firstOccurrences (files : List SourceFile) : List SourceFile :=
  (files.zipIdx.filter fun m =>
    !((files.take m.2).map SourceFile.path).contains m.1.path).map Prod.fst

/-- What is left of files after others with some paths. -/
theorem withoutRepeats_eq_filter {seen : List String} (before : List SourceFile)
    (hseen : ∀ path, path ∈ seen ↔ path ∈ before.map SourceFile.path) (files : List SourceFile) :
    withoutRepeats seen files = ((files.zipIdx before.length).filter fun m =>
      !(((before ++ files).take m.2).map SourceFile.path).contains m.1.path).map Prod.fst := by
  induction files generalizing seen before with
  | nil => rfl
  | cons file rest ih =>
    have hcontains : seen.contains file.path = (before.map SourceFile.path).contains file.path := by
      rw [Bool.eq_iff_iff, List.contains_iff_mem, List.contains_iff_mem, hseen]
    rw [withoutRepeats, List.zipIdx_cons, List.filter_cons, List.take_left, hcontains,
      List.append_cons]
    have hlength : before.length + 1 = (before ++ [file]).length := by simp
    by_cases hfile : (before.map SourceFile.path).contains file.path
    · rw [hfile, if_pos rfl, Bool.not_true, if_neg Bool.false_ne_true, hlength]
      refine ih _ ?_
      intro path
      rw [hseen, List.map_append, List.mem_append]
      refine ⟨.inl, ?_⟩
      rintro (h | h)
      · exact h
      · rw [List.mem_singleton.1 h]
        exact List.contains_iff_mem.1 hfile
    · rw [Bool.eq_false_iff.2 hfile, if_neg Bool.false_ne_true, Bool.not_false, if_pos rfl,
        List.map_cons, hlength]
      refine congrArg (file :: ·) (ih _ ?_)
      intro path
      rw [List.mem_cons, hseen, List.map_append, List.mem_append, or_comm]
      exact or_congr_right List.mem_singleton.symm

/-- **Leaving out repeats** leaves the files whose path comes no earlier. -/
theorem withoutRepeats_eq (files : List SourceFile) :
    withoutRepeats [] files = firstOccurrences files :=
  withoutRepeats_eq_filter [] (fun _ => Iff.rfl) files

theorem withoutRepeats_sublist (seen : List String) (files : List SourceFile) :
    (withoutRepeats seen files).Sublist files := by
  induction files generalizing seen with
  | nil => exact List.Sublist.refl _
  | cons file rest ih =>
    rw [withoutRepeats]
    split
    · exact (ih _).cons file
    · exact (ih _).cons_cons file

/-- A file that is left is the first with its path. -/
theorem find?_of_mem_withoutRepeats {seen : List String} {files : List SourceFile}
    {file : SourceFile} (h : file ∈ withoutRepeats seen files) :
    file.path ∉ seen ∧ files.find? (·.path == file.path) = some file := by
  induction files generalizing seen with
  | nil => cases h
  | cons first rest ih =>
    rw [withoutRepeats] at h
    split at h
    case isTrue hfirst =>
      obtain ⟨hnew, hfind⟩ := ih h
      refine ⟨hnew, ?_⟩
      have hne : (first.path == file.path) = false := by
        rw [beq_eq_false_iff_ne]
        intro heq
        rw [heq] at hfirst
        exact hnew (List.contains_iff_mem.1 hfirst)
      rw [List.find?_cons, hne]
      exact hfind
    case isFalse hfirst =>
      rcases List.mem_cons.1 h with rfl | h
      · exact ⟨mt List.contains_iff_mem.2 hfirst, List.find?_cons_of_pos (beq_self_eq_true _)⟩
      · obtain ⟨hnew, hfind⟩ := ih h
        obtain ⟨hne, hnew⟩ := not_or.1 (mt List.mem_cons.2 hnew)
        refine ⟨hnew, ?_⟩
        rw [List.find?_cons, beq_eq_false_iff_ne.2 (Ne.symm hne)]
        exact hfind

/-- No two files that are left have the same path. -/
theorem withoutRepeats_nodup (seen : List String) (files : List SourceFile) :
    ((withoutRepeats seen files).map SourceFile.path).Nodup := by
  induction files generalizing seen with
  | nil => exact List.nodup_nil
  | cons file rest ih =>
    rw [withoutRepeats]
    split
    · exact ih seen
    · rw [List.map_cons, List.nodup_cons]
      refine ⟨?_, ih _⟩
      intro hmem
      obtain ⟨other, hother, hpath⟩ := List.mem_map.1 hmem
      refine (find?_of_mem_withoutRepeats hother).1 ?_
      rw [hpath]
      exact List.mem_cons_self

/-- Every file has one with its path among those that are left. -/
theorem exists_mem_withoutRepeats {seen : List String} {files : List SourceFile}
    {file : SourceFile} (h : file ∈ files) (hnew : file.path ∉ seen) :
    ∃ left ∈ withoutRepeats seen files, left.path = file.path := by
  induction files generalizing seen with
  | nil => cases h
  | cons first rest ih =>
    rw [withoutRepeats]
    by_cases hpath : first.path = file.path
    · rw [if_neg (by rw [List.contains_iff_mem, hpath]; exact hnew)]
      exact ⟨first, List.mem_cons_self, hpath⟩
    · have hrest : file ∈ rest := by
        rcases List.mem_cons.1 h with rfl | h
        · exact absurd rfl hpath
        · exact h
      split
      · exact ih hrest hnew
      · have hnew' : file.path ∉ first.path :: seen := by
          rw [List.mem_cons]
          exact not_or.2 ⟨Ne.symm hpath, hnew⟩
        obtain ⟨left, hleft, heq⟩ := ih hrest hnew'
        exact ⟨left, List.mem_cons_of_mem _ hleft, heq⟩

/-- Nothing is left out where no path is repeated. -/
theorem withoutRepeats_of_nodup {seen : List String} {files : List SourceFile}
    (h : (files.map SourceFile.path).Nodup) (hseen : ∀ file ∈ files, file.path ∉ seen) :
    withoutRepeats seen files = files := by
  induction files generalizing seen with
  | nil => rfl
  | cons file rest ih =>
    obtain ⟨hfile, hrest⟩ := List.nodup_cons.1 h
    rw [withoutRepeats, if_neg (mt List.contains_iff_mem.1 (hseen file List.mem_cons_self)),
      ih hrest]
    intro other hother
    rw [List.mem_cons, not_or]
    refine ⟨?_, hseen other (List.mem_cons_of_mem _ hother)⟩
    intro heq
    exact hfile (List.mem_map.2 ⟨other, hother, heq⟩)

/-! ## Several folders -/

/-- What a search of one folder alone gives: nothing but a warning if the path leads to no folder,
and otherwise files below the folder. -/
structure SearchedAlone (config : Config) (tree : FileTree) (folder : String)
    (files : List SourceFile) (notices : List Notice) : Prop where
  search : findFiles { config with deduplicate := false } tree [folder] = (.ok files, notices)
  skipped : (¬ ∃ root, tree.LeadsToFolder folder root) →
    files = [] ∧ notices = [.skippedFolder folder]
  entered : ∀ root, tree.LeadsToFolder folder root →
    notices = [] ∧ (∃ es, tree.IsCanonical (Path.ofNames root) root (.folder es)) ∧
      ∀ file ∈ files, file.IsBelow tree root

/-- What is left of the files that were found in some folders if repeated files are left out. -/
structure LeavesFirst (tree : FileTree) (folders : List String)
    (found : String → List SourceFile) (left : List SourceFile) : Prop where
  eq : left = firstOccurrences (folders.flatMap found)
  /-- No two paths lead to the same file. -/
  once : left.Pairwise fun f g => tree.leadsTo f.path ≠ tree.leadsTo g.path
  complete : ∀ folder ∈ folders, ∀ file ∈ found folder, ∃ f ∈ left, f.path = file.path
  ordered : left.Sublist (folders.flatMap found)
  /-- A file comes from the first folder that holds it. -/
  earliest : ∀ file ∈ left, ∃ before folder after, folders = before ++ folder :: after ∧
    file ∈ found folder ∧ ∀ earlier ∈ before, ∀ other ∈ found earlier, other.path ≠ file.path

theorem searchedAlone_filesIn (config : Config) (hsound : tree.IsSound)
    (hrules : excludeRules config.exclude = .ok rules) (folder : String) :
    SearchedAlone config tree folder (filesIn config tree rules folder)
      (noticesOn tree folder) where
  search := by
    rw [findFiles_eq { config with deduplicate := false } hrules,
      List.flatMap_singleton, List.flatMap_singleton]
    rfl
  skipped := filesIn_skipped config rules
  entered := by
    intro root h
    refine ⟨noticesOn_folder h, ?_, fun file hfile => filesIn_below hsound h hfile⟩
    obtain ⟨es, hes⟩ := h
    exact ⟨es, FileTree.isCanonical_ofNames hsound (FileTree.get?_of_locate hes) nofun fun _ => rfl⟩

/-- Files that lie below folders are the same if their paths lead to the same. -/
theorem path_eq_of_leadsTo_eq {f g : SourceFile} {xs ys : List String}
    (hf : f.IsBelow tree xs) (hg : g.IsBelow tree ys)
    (h : tree.leadsTo f.path = tree.leadsTo g.path) : f.path = g.path := by
  obtain ⟨below, content, -, hf⟩ := hf.path
  obtain ⟨below', content', -, hg⟩ := hg.path
  rw [hf.leads, hg.leads] at h
  rw [hf.eq, hg.eq, (Prod.mk.inj (Except.ok.inj h)).1]

theorem leavesFirst_withoutRepeats {folders : List String} {found : String → List SourceFile}
    (h : ∀ folder ∈ folders, ∀ file ∈ found folder, ∃ root, file.IsBelow tree root) :
    LeavesFirst tree folders found (withoutRepeats [] (folders.flatMap found)) where
  eq := withoutRepeats_eq _
  ordered := withoutRepeats_sublist _ _
  complete := by
    intro folder hfolder file hfile
    exact exists_mem_withoutRepeats (List.mem_flatMap.2 ⟨folder, hfolder, hfile⟩)
      List.not_mem_nil
  once := by
    have hnodup := withoutRepeats_nodup [] (folders.flatMap found)
    rw [List.Nodup, List.pairwise_map] at hnodup
    refine hnodup.imp_of_mem ?_
    intro f g hf hg hne heq
    obtain ⟨x, hx, hf⟩ := List.mem_flatMap.1 ((withoutRepeats_sublist _ _).subset hf)
    obtain ⟨y, hy, hg⟩ := List.mem_flatMap.1 ((withoutRepeats_sublist _ _).subset hg)
    obtain ⟨_, hf⟩ := h x hx f hf
    obtain ⟨_, hg⟩ := h y hy g hg
    exact hne (path_eq_of_leadsTo_eq hf hg heq)
  earliest := by
    intro file hfile
    have hfirst := (find?_of_mem_withoutRepeats hfile).2
    rw [List.find?_flatMap, List.findSome?_eq_some_iff] at hfirst
    obtain ⟨before, folder, after, hfolders, hfolder, hbefore⟩ := hfirst
    refine ⟨before, folder, after, hfolders, List.mem_of_find?_eq_some hfolder, ?_⟩
    intro earlier hearlier other hother heq
    have hnone := List.find?_eq_none.1 (hbefore earlier hearlier) other hother
    exact hnone (beq_iff_eq.2 heq)

/-- **What a search of several folders gives**: in the order of the folders, what a search of each
alone gives, and if repeats are to be left out, of that the first file with each path. -/
theorem findFiles_gathers (config : Config) {tree : FileTree} (hsound : tree.IsSound)
    (hvalid : ∀ pattern ∈ config.exclude, IsExcludePattern pattern) (folders : List String) :
    ∃ (found : String → List SourceFile) (notices : String → List Notice),
      (∀ folder, SearchedAlone config tree folder (found folder) (notices folder)) ∧
      findFiles { config with deduplicate := false } tree folders =
        (.ok (folders.flatMap found), folders.flatMap notices) ∧
      ∃ left, LeavesFirst tree folders found left ∧
        findFiles { config with deduplicate := true } tree folders =
          (.ok left, folders.flatMap notices) := by
  obtain ⟨rules, hrules⟩ := exists_excludeRules_iff.2 hvalid
  have halone := searchedAlone_filesIn config hsound hrules
  refine ⟨filesIn config tree rules, noticesOn tree, halone, ?_, _,
    leavesFirst_withoutRepeats ?_, ?_⟩
  · rw [findFiles_eq { config with deduplicate := false } hrules]
    rfl
  · intro folder _ file hfile
    by_cases h : ∃ root, tree.LeadsToFolder folder root
    · obtain ⟨root, h⟩ := h
      exact ⟨root, ((halone folder).entered root h).2.2 file hfile⟩
    · rw [((halone folder).skipped h).1] at hfile
      cases hfile
  · rw [findFiles_eq { config with deduplicate := true } hrules]
    rfl

/-- A project with a second way into one of its folders. -/
def aliasedTree : FileTree where
  root := .folder [("work", .folder [
    ("app", .folder [("lib", .folder [("b.dart", .file []), ("a.dart", .file [])]),
      ("again", .link "lib"), (".cache", .folder [("c.dart", .file [])])])])]
  current := ["work"]

theorem isSound_aliasedTree : aliasedTree.IsSound := by
  simp only [FileTree.IsSound, aliasedTree, Entry.isSound_folder_iff, List.forall_mem_cons,
    List.not_mem_nil, false_imp_iff, implies_true, Entry.isSound_file, Entry.isSound_link, and_true,
    true_and]
  decide +kernel

theorem findFiles_gathers_aliased :
    aliasedTree.IsSound ∧ (∀ pattern ∈ ({} : Config).exclude, IsExcludePattern pattern) ∧
      ∃ (found : String → List SourceFile) (notices : String → List Notice),
        (∀ folder, SearchedAlone {} aliasedTree folder (found folder) (notices folder)) ∧
        findFiles { deduplicate := false } aliasedTree ["app", "app/again", "app/./lib/..", "no"] =
          (.ok (["app", "app/again", "app/./lib/..", "no"].flatMap found),
            ["app", "app/again", "app/./lib/..", "no"].flatMap notices) ∧
        ∃ left, LeavesFirst aliasedTree ["app", "app/again", "app/./lib/..", "no"] found left ∧
          findFiles { deduplicate := true } aliasedTree ["app", "app/again", "app/./lib/..", "no"] =
            (.ok left, ["app", "app/again", "app/./lib/..", "no"].flatMap notices) := by
  have hvalid : ∀ pattern ∈ ({} : Config).exclude, IsExcludePattern pattern := by decide +kernel
  exact ⟨isSound_aliasedTree, hvalid, findFiles_gathers {} isSound_aliasedTree hvalid _⟩

/-! ## One folder -/

/-- The parts of a path between slashes, as bytes. Paths are compared part by part. -/
def pathBytes (path : String) : List (List UInt8) := (Path.pieces path).map Text.encode

/-- Paths of names are ordered like the names. -/
theorem pathBytes_lt {xs ys : List String} (hxs : ∀ name ∈ xs, IsEntryName name)
    (hys : ∀ name ∈ ys, IsEntryName name) (hxs' : xs ≠ []) (hys' : ys ≠ []) (h : xs < ys) :
    pathBytes (Path.ofNames xs) < pathBytes (Path.ofNames ys) := by
  rw [pathBytes, pathBytes, Path.pieces_ofNames (fun n hn => (hxs n hn).slash) hxs',
    Path.pieces_ofNames (fun n hn => (hys n hn).slash) hys', List.map_cons, List.map_cons]
  exact List.cons_lt_cons_iff.2 (.inr ⟨rfl, List.map_lt (fun _ _ => Text.encode_lt_encode) h⟩)

/-- The files in a folder stand in the strict order of their paths. -/
theorem filesIn_ordered (hsound : tree.IsSound) (folder : String) :
    (filesIn config tree rules folder).Pairwise fun f g => pathBytes f.path < pathBytes g.path := by
  by_cases h : ∃ root, tree.LeadsToFolder folder root
  · obtain ⟨root, h⟩ := h
    rw [filesIn_folder h, List.pairwise_map]
    obtain ⟨es, hes⟩ := h
    have hget := FileTree.get?_of_locate hes
    have hnames : ∀ names ∈ (searchFilter config tree rules root).sources,
        (∀ name ∈ names, IsEntryName name) ∧ names ≠ [] := by
      intro names hsource
      obtain ⟨below, content, hbelow, hfile, rfl⟩ :=
        (searchFilter config tree rules root).sources_below hsound hget hsource
      exact ⟨hsound.names hfile, fun hnil => hbelow (List.append_eq_nil_iff.1 hnil).2⟩
    refine (Discovery.Filter.sources_ordered hsound).imp_of_mem ?_
    intro xs ys hxs hys hlt
    exact pathBytes_lt (hnames xs hxs).1 (hnames ys hys).1 (hnames xs hxs).2 (hnames ys hys).2 hlt
  · rw [(filesIn_skipped _ _ h).1]
    exact List.Pairwise.nil

theorem filesIn_nodup (hsound : tree.IsSound) (folder : String) :
    ((filesIn config tree rules folder).map SourceFile.path).Nodup := by
  rw [List.Nodup, List.pairwise_map]
  refine (filesIn_ordered hsound folder).imp ?_
  intro f g hlt heq
  rw [heq] at hlt
  exact absurd hlt (List.lt_irrefl _)

/-- A search of one folder gives what is in it, whether repeats are left out or not. -/
theorem findFiles_single (hsound : tree.IsSound) (hrules : excludeRules config.exclude = .ok rules)
    (folder : String) :
    (findFiles config tree [folder]).1 = .ok (filesIn config tree rules folder) := by
  rw [findFiles_eq config hrules, List.flatMap_singleton,
    withoutRepeats_of_nodup (filesIn_nodup hsound folder) fun _ _ => List.not_mem_nil, ite_self]

/-- A file is below a folder with nothing hidden on the way, and its name has an extension of source
files. -/
def SourceFile.IsVisible (file : SourceFile) (config : Config) (tree : FileTree)
    (folder : String) : Prop :=
  ∃ root below name content, tree.LeadsToFolder folder root ∧
    tree.get? (root ++ (below ++ [name])) = some (.file content) ∧
    (∀ n ∈ below ++ [name], n.toList.head? ≠ some '.') ∧
    (∃ extension ∈ config.extensions, Discovery.HasExtension name extension) ∧
    file = ⟨Path.ofNames (root ++ (below ++ [name])), Path.ofNames root⟩

/-- Without rules a search finds the files that are visible. -/
theorem mem_filesIn (hsound : tree.IsSound) (hignore : config.respectIgnoreFiles = false)
    {folder : String} {file : SourceFile} :
    file ∈ filesIn config tree [] folder ↔ file.IsVisible config tree folder := by
  have hmem : ∀ root, tree.LeadsToFolder folder root → ∀ names,
      names ∈ (searchFilter config tree [] root).sources ↔ _ := fun root h names =>
    h.elim fun es hes =>
      (searchFilter config tree [] root).mem_sources hsound (FileTree.get?_of_locate hes)
  have hadmits := fun root below =>
    (searchFilter config tree [] root).admits_plain hignore rfl root below
  have houtermost : ∀ root, (searchFilter config tree [] root).outermost = [] := fun root =>
    if_neg (by rw [searchFilter, hignore]; exact Bool.false_ne_true)
  constructor
  · intro hfile
    by_cases h : ∃ root, tree.LeadsToFolder folder root
    · obtain ⟨root, h⟩ := h
      rw [filesIn_folder h] at hfile
      obtain ⟨names, hnames, rfl⟩ := List.mem_map.1 hfile
      obtain ⟨below, content, hget, hbelow, rfl⟩ := (hmem root h names).1 hnames
      rw [houtermost] at hbelow
      obtain ⟨hvisible, name, hname, hsource⟩ := (hadmits root below).1 hbelow
      obtain ⟨above, rfl⟩ := List.getLast?_eq_some_iff.1 hname
      refine ⟨root, above, name, content, h, hget, ?_, Discovery.Filter.isSource_iff.1 hsource, rfl⟩
      intro n hn hdot
      exact hvisible n hn (beq_iff_eq.2 hdot)
    · rw [(filesIn_skipped _ _ h).1] at hfile
      cases hfile
  · rintro ⟨root, below, name, content, h, hget, hvisible, hsource, rfl⟩
    rw [filesIn_folder h, List.mem_map]
    refine ⟨_, (hmem root h _).2 ⟨_, content, hget, ?_, rfl⟩, rfl⟩
    rw [houtermost]
    refine (hadmits root _).2
      ⟨?_, name, List.getLast?_concat, Discovery.Filter.isSource_iff.2 hsource⟩
    intro n hn hdot
    exact hvisible n hn (beq_iff_eq.1 hdot)

/-- **What a search of one folder finds.** If neither ignore files nor patterns leave anything out,
it finds the visible files below the folder, each once. Whatever is left out, the paths are strictly
increasing part by part. -/
theorem findFiles_enumerates (config : Config) {tree : FileTree} (hsound : tree.IsSound)
    (folder : String) :
    (config.respectIgnoreFiles = false → config.exclude = [] →
      ∃ files, (findFiles config tree [folder]).1 = .ok files ∧
        (files.map SourceFile.path).Nodup ∧
        ∀ file, file ∈ files ↔ file.IsVisible config tree folder) ∧
    ∀ files, (findFiles config tree [folder]).1 = .ok files →
      files.Pairwise fun f g => pathBytes f.path < pathBytes g.path := by
  constructor
  · intro hignore hexclude
    have hrules : excludeRules config.exclude = .ok [] := by rw [hexclude]; rfl
    exact ⟨_, findFiles_single hsound hrules folder, filesIn_nodup hsound folder,
      fun file => mem_filesIn hsound hignore⟩
  · intro files hfiles
    by_cases hne : files = []
    · rw [hne]
      exact List.Pairwise.nil
    · obtain ⟨rules, hrules⟩ := exists_rules_of_ne_nil hfiles hne
      rw [findFiles_single hsound hrules folder] at hfiles
      cases hfiles
      exact filesIn_ordered hsound folder

theorem findFiles_enumerates_aliased :
    aliasedTree.IsSound ∧ ∃ files,
      (findFiles { exclude := [], respectIgnoreFiles := false } aliasedTree ["app"]).1 = .ok files ∧
        (files.map SourceFile.path).Nodup ∧
        (∀ file, file ∈ files ↔
          file.IsVisible { exclude := [], respectIgnoreFiles := false } aliasedTree "app") ∧
        files.Pairwise fun f g => pathBytes f.path < pathBytes g.path := by
  obtain ⟨hplain, hordered⟩ := findFiles_enumerates { exclude := [], respectIgnoreFiles := false }
    isSound_aliasedTree "app"
  obtain ⟨files, hfiles, hnodup, hmem⟩ := hplain rfl rfl
  exact ⟨isSound_aliasedTree, files, hfiles, hnodup, hmem, hordered files hfiles⟩

end DeadSymbols
