import DeadSymbols.Discovery.Walk
import DeadSymbols.Proofs.Resolution

/-!
# What a search below a folder finds

A search visits the entries of every folder in the order of their names. It finds the files that
the filter admits, whatever else there is: a file is found if none of the folders on the way to it
is left out, and if the file itself is a source file and is not left out. The ways to the files are
strictly increasing, name by name.

* `Entry.get?_sorted`: a sorted tree has the same entries.
* `Discovery.Filter.admits`: what decides whether a file is found.
* `Discovery.Filter.mem_sources`: the files that are found.
* `Discovery.Filter.sources_ordered`: their order.
* `Discovery.Filter.admits_plain`: without rules only hidden names are left out.
* `Discovery.Filter.isSource_iff`: which names are those of source files.
-/

namespace DeadSymbols

/-! ## Sorted trees -/

theorem insertEntry_perm (name : String) (e : Entry) (es : List (String × Entry)) :
    (insertEntry name e es).Perm ((name, e) :: es) := by
  induction es with
  | nil => exact List.Perm.refl _
  | cons m es ih =>
    rw [insertEntry]
    split
    · exact List.Perm.refl _
    · exact (ih.cons m).trans (List.Perm.swap _ _ _)

theorem sortedEntries_perm (es : List (String × Entry)) :
    (sortedEntries es).Perm (es.map fun m => (m.1, m.2.sorted)) := by
  induction es with
  | nil => exact List.Perm.refl _
  | cons m es ih =>
    rw [sortedEntries, insertSorted]
    exact (insertEntry_perm _ _ _).trans (ih.cons _)

theorem mem_sortedEntries {es : List (String × Entry)} {m : String × Entry} :
    m ∈ sortedEntries es ↔ ∃ n ∈ es, (n.1, n.2.sorted) = m := by
  rw [(sortedEntries_perm es).mem_iff, List.mem_map]

theorem map_fst_sortedEntries (es : List (String × Entry)) :
    ((sortedEntries es).map Prod.fst).Perm (es.map Prod.fst) := by
  have h := (sortedEntries_perm es).map Prod.fst
  rwa [List.map_map] at h

/-- An entry that is put among others keeps them in order. -/
theorem insertEntry_ordered {name : String} {es : List (String × Entry)} (e : Entry)
    (h : es.Pairwise (·.1 < ·.1)) (hnew : name ∉ es.map Prod.fst) :
    (insertEntry name e es).Pairwise (·.1 < ·.1) := by
  induction es with
  | nil => exact List.pairwise_singleton _ _
  | cons m es ih =>
    obtain ⟨hm, hes⟩ := List.pairwise_cons.1 h
    obtain ⟨hne, hnew⟩ := not_or.1 (mt List.mem_cons.2 hnew)
    rw [insertEntry]
    split
    case isTrue hlt =>
      refine List.pairwise_cons.2 ⟨?_, h⟩
      intro n hn
      rcases List.mem_cons.1 hn with rfl | hn
      · exact hlt
      · exact String.lt_trans hlt (hm n hn)
    case isFalse hge =>
      refine List.pairwise_cons.2 ⟨?_, ih hes hnew⟩
      intro n hn
      rcases List.mem_cons.1 ((insertEntry_perm name e es).mem_iff.1 hn) with rfl | hn
      · exact Std.lt_of_le_of_ne (String.not_lt.1 hge) (Ne.symm hne)
      · exact hm n hn

/-- The entries of a folder stand in the strict order of their names. -/
theorem sortedEntries_ordered {es : List (String × Entry)} (h : (es.map Prod.fst).Nodup) :
    (sortedEntries es).Pairwise (·.1 < ·.1) := by
  induction es with
  | nil => exact List.Pairwise.nil
  | cons m es ih =>
    obtain ⟨hm, hes⟩ := List.nodup_cons.1 h
    rw [sortedEntries, insertSorted]
    refine insertEntry_ordered _ (ih hes) ?_
    rwa [(map_fst_sortedEntries es).mem_iff]

namespace Entry

theorem lookup_eq_some {es : List (String × Entry)} (hnodup : (es.map Prod.fst).Nodup)
    {name : String} {e : Entry} : es.lookup name = some e ↔ (name, e) ∈ es :=
  ⟨mem_of_lookup, lookup_of_mem hnodup⟩

theorem lookup_sortedEntries {es : List (String × Entry)} (h : (es.map Prod.fst).Nodup)
    (name : String) : (sortedEntries es).lookup name = (es.lookup name).map sorted := by
  apply Option.ext
  intro f
  rw [lookup_eq_some ((map_fst_sortedEntries es).nodup_iff.2 h), mem_sortedEntries,
    Option.map_eq_some_iff]
  constructor
  · rintro ⟨n, hn, heq⟩
    cases heq
    exact ⟨n.2, lookup_of_mem h hn, rfl⟩
  · rintro ⟨e, he, rfl⟩
    exact ⟨(name, e), mem_of_lookup he, rfl⟩

/-- **A sorted tree has the same entries in the same places.** -/
theorem get?_sorted {e : Entry} (h : e.IsSound) (names : List String) :
    e.sorted.get? names = (e.get? names).map sorted := by
  induction names generalizing e with
  | nil => rfl
  | cons name rest ih =>
    cases e with
    | file content => rfl
    | link target => rfl
    | folder es =>
      rw [sorted, get?_folder_cons, get?_folder_cons, lookup_sortedEntries h.siblings.nodup]
      cases hlookup : es.lookup name with
      | none => rfl
      | some e => exact ih (h.entry (mem_of_lookup hlookup))

theorem sorted_eq_file {e : Entry} {content : List UInt8} :
    e.sorted = .file content ↔ e = .file content := by
  cases e with
  | file c => rfl
  | link target => rfl
  | folder es => rw [sorted]; exact ⟨nofun, nofun⟩

/-- A sorted tree is one that a file system can hold. -/
theorem IsSound.sorted {e : Entry} (h : e.IsSound) : e.sorted.IsSound := by
  intro names es hes
  rw [get?_sorted h, Option.map_eq_some_iff] at hes
  obtain ⟨found, hfound, heq⟩ := hes
  cases found with
  | file content => cases heq
  | link target => cases heq
  | folder inner =>
    rw [Entry.sorted] at heq
    cases heq
    have hinner := h names inner hfound
    refine ⟨(map_fst_sortedEntries inner).nodup_iff.2 hinner.nodup, ?_⟩
    intro m hm
    obtain ⟨n, hn, rfl⟩ := mem_sortedEntries.1 hm
    exact hinner.names n hn

end Entry

namespace Discovery

variable {filter : Filter} {layers : List Ignore.Layer} {folder names : List String}

/-! ## What is found -/

/-- Whether a file is found to which some names lead from a folder: no folder on the way may be
left out, and the last name has to be that of a source file that is not left out. -/
def Filter.admits (filter : Filter) :
    List Ignore.Layer → List String → List String → Bool
  | _, _, [] => false
  | layers, folder, [name] =>
    filter.isSource name && !filter.leavesOut layers (folder ++ [name]) name false
  | layers, folder, name :: next :: rest =>
    !filter.leavesOut layers (folder ++ [name]) name true &&
      filter.admits (filter.enter (folder ++ [name]) layers) (folder ++ [name]) (next :: rest)

theorem sourcesIn_eq_flatMap (filter : Filter) (layers : List Ignore.Layer)
    (folder : List String) (es : List (String × Entry)) :
    sourcesIn filter layers folder es =
      es.flatMap fun m => sourcesAt filter layers folder m.1 m.2 := by
  induction es with
  | nil => rfl
  | cons m es ih => rw [sourcesIn, sourcesOf, List.flatMap_cons, ih]

/-- Some names lead to a file below an entry that is found there. -/
def IsFound (filter : Filter) (layers : List Ignore.Layer) (folder : List String) (name : String)
    (e : Entry) (names : List String) : Prop :=
  ∃ below content, e.get? below = some (.file content) ∧
    filter.admits layers folder (name :: below) ∧ names = folder ++ name :: below

/-- What is found among entries is what is found in one of them. -/
theorem mem_sourcesIn_of {es : List (String × Entry)} (hnodup : (es.map Prod.fst).Nodup)
    (h : ∀ m ∈ es, names ∈ sourcesAt filter layers folder m.1 m.2 ↔
      IsFound filter layers folder m.1 m.2 names) :
    names ∈ sourcesIn filter layers folder es ↔
      ∃ below content, (Entry.folder es).get? below = some (.file content) ∧
        filter.admits layers folder below ∧ names = folder ++ below := by
  rw [sourcesIn_eq_flatMap, List.mem_flatMap]
  constructor
  · rintro ⟨m, hm, hnames⟩
    obtain ⟨below, content, hget, hadmits, hnames⟩ := (h m hm).1 hnames
    refine ⟨m.1 :: below, content, ?_, hadmits, hnames⟩
    rw [Entry.get?_folder_cons, Entry.lookup_of_mem hnodup hm]
    exact hget
  · rintro ⟨below, content, hget, hadmits, hnames⟩
    cases below with
    | nil => cases hget
    | cons name below =>
      rw [Entry.get?_folder_cons] at hget
      obtain ⟨e, he, hget⟩ := Option.bind_eq_some_iff.1 hget
      have hm := Entry.mem_of_lookup he
      exact ⟨(name, e), hm, (h _ hm).2 ⟨below, content, hget, hadmits, hnames⟩⟩

/-- What is found in an entry: the files that the filter admits. -/
theorem mem_sourcesAt {e : Entry} (h : e.IsSound) {name : String} :
    names ∈ sourcesAt filter layers folder name e ↔
      IsFound filter layers folder name e names := by
  induction e using Entry.tree_induction generalizing layers folder name with
  | file content =>
    rw [sourcesAt]
    constructor
    · intro hmem
      split at hmem
      case isTrue hadmits => exact ⟨[], content, rfl, hadmits, List.mem_singleton.1 hmem⟩
      case isFalse => cases hmem
    · rintro ⟨below, _, hget, hadmits, rfl⟩
      cases below with
      | nil =>
        rw [Filter.admits] at hadmits
        rw [if_pos hadmits]
        exact List.mem_singleton_self _
      | cons => cases hget
  | link target =>
    rw [sourcesAt]
    refine ⟨nofun, ?_⟩
    rintro ⟨below, content, hget, -, -⟩
    cases below <;> cases hget
  | folder es ih =>
    rw [sourcesAt]
    have hin : names ∈ sourcesIn filter (filter.enter (folder ++ [name]) layers) (folder ++ [name])
        es ↔ _ := mem_sourcesIn_of h.siblings.nodup fun m hm => ih m hm (h.entry hm)
    by_cases hout : filter.leavesOut layers (folder ++ [name]) name true = true
    · rw [if_pos hout]
      refine ⟨nofun, ?_⟩
      rintro ⟨below, content, hget, hadmits, -⟩
      cases below with
      | nil => cases hget
      | cons next rest =>
        rw [Filter.admits, hout] at hadmits
        cases hadmits
    · rw [if_neg hout, hin]
      constructor
      · rintro ⟨below, content, hget, hadmits, rfl⟩
        refine ⟨below, content, hget, ?_, List.append_assoc _ _ _⟩
        cases below with
        | nil => cases hget
        | cons next rest =>
          rw [Filter.admits, Bool.eq_false_iff.2 hout]
          exact hadmits
      · rintro ⟨below, content, hget, hadmits, rfl⟩
        refine ⟨below, content, hget, ?_, List.append_cons _ _ _⟩
        cases below with
        | nil => cases hget
        | cons next rest =>
          rw [Filter.admits, Bool.and_eq_true] at hadmits
          exact hadmits.2

/-- The layers that hold in the folder in which a search begins. -/
def Filter.outermost (filter : Filter) : List Ignore.Layer :=
  filter.enter filter.root
    (if filter.respectIgnoreFiles then layersAbove filter.tree filter.root.reverse else [])

theorem Filter.sources_eq {es : List (String × Entry)}
    (h : filter.tree.get? filter.root = some (.folder es)) :
    filter.sources = sourcesIn filter filter.outermost filter.root (sortedEntries es) := by
  rw [Filter.sources, h]
  rfl

/-- **What a search finds.** The files below the folder that the filter admits, each by its names
from the root. -/
theorem Filter.mem_sources (filter : Filter) (hsound : filter.tree.IsSound)
    {es : List (String × Entry)} (h : filter.tree.get? filter.root = some (.folder es)) :
    names ∈ filter.sources ↔ ∃ below content,
      filter.tree.get? (filter.root ++ below) = some (.file content) ∧
        filter.admits filter.outermost filter.root below ∧ names = filter.root ++ below := by
  have hes : (Entry.folder es).IsSound := Entry.IsSound.get? hsound h
  have hsorted := hes.sorted
  rw [Entry.sorted] at hsorted
  rw [Filter.sources_eq h, mem_sourcesIn_of hsorted.siblings.nodup
    fun m hm => mem_sourcesAt (hsorted.entry hm)]
  refine exists_congr fun below => exists_congr fun content => ?_
  have hget := Entry.get?_sorted hes below
  rw [Entry.sorted] at hget
  rw [hget, Option.map_eq_some_iff, FileTree.get?_append, h, Option.bind_some]
  simp only [Entry.sorted_eq_file, exists_eq_right]

/-- What is found lies strictly below the folder and is a file. -/
theorem Filter.sources_below (filter : Filter) (hsound : filter.tree.IsSound)
    {es : List (String × Entry)} (h : filter.tree.get? filter.root = some (.folder es))
    (hnames : names ∈ filter.sources) : ∃ below content, below ≠ [] ∧
      filter.tree.get? (filter.root ++ below) = some (.file content) ∧
      names = filter.root ++ below := by
  obtain ⟨below, content, hget, hadmits, rfl⟩ := (filter.mem_sources hsound h).1 hnames
  refine ⟨below, content, ?_, hget, rfl⟩
  rintro rfl
  cases hadmits

/-! ## The order -/

theorem sourcesIn_ordered {es : List (String × Entry)} (hes : (Entry.folder es).IsSound)
    (h : ∀ m ∈ es, (sourcesAt filter layers folder m.1 m.2.sorted).Pairwise (· < ·)) :
    (sourcesIn filter layers folder (sortedEntries es)).Pairwise (· < ·) := by
  rw [sourcesIn_eq_flatMap, List.pairwise_flatMap]
  constructor
  · intro m hm
    obtain ⟨n, hn, rfl⟩ := mem_sortedEntries.1 hm
    exact h n hn
  · -- the ways into two entries part at their names
    refine (sortedEntries_ordered hes.siblings.nodup).imp_of_mem ?_
    intro m n hm hn hlt xs hxs ys hys
    have hsorted := hes.sorted
    rw [Entry.sorted] at hsorted
    obtain ⟨below, -, -, -, rfl⟩ := (mem_sourcesAt (hsorted.entry hm)).1 hxs
    obtain ⟨below', -, -, -, rfl⟩ := (mem_sourcesAt (hsorted.entry hn)).1 hys
    exact List.append_left_lt (List.cons_lt_cons_iff.2 (.inl hlt))

theorem sourcesAt_ordered {e : Entry} (h : e.IsSound) (name : String) :
    (sourcesAt filter layers folder name e.sorted).Pairwise (· < ·) := by
  induction e using Entry.tree_induction generalizing layers folder name with
  | file content =>
    rw [Entry.sorted, sourcesAt]
    · split
      · exact List.pairwise_singleton _ _
      · exact List.Pairwise.nil
    · nofun
  | link target =>
    rw [Entry.sorted, sourcesAt]
    · exact List.Pairwise.nil
    · nofun
  | folder es ih =>
    rw [Entry.sorted, sourcesAt]
    split
    · exact List.Pairwise.nil
    · exact sourcesIn_ordered h fun m hm => ih m hm (h.entry hm) m.1

/-- **A search finds files in the order of their names**, those of the folders on the way first. -/
theorem Filter.sources_ordered (hsound : filter.tree.IsSound) :
    filter.sources.Pairwise (· < ·) := by
  cases h : filter.tree.get? filter.root with
  | none =>
    rw [Filter.sources, h]
    exact List.Pairwise.nil
  | some e =>
    cases e with
    | file content => rw [Filter.sources, h]; exact List.Pairwise.nil
    | link target => rw [Filter.sources, h]; exact List.Pairwise.nil
    | folder es =>
      have hes : (Entry.folder es).IsSound := Entry.IsSound.get? hsound h
      rw [Filter.sources_eq h]
      exact sourcesIn_ordered hes fun m hm => sourcesAt_ordered (hes.entry hm) m.1

/-! ## Searches without rules -/

/-- Without rules, what is left out is what has a hidden name on the way. -/
theorem Filter.admits_plain (filter : Filter) (hignore : filter.respectIgnoreFiles = false)
    (hrules : filter.excluded = []) (folder below : List String) :
    filter.admits [] folder below ↔
      (∀ name ∈ below, ¬ isHidden name) ∧
        ∃ name, below.getLast? = some name ∧ filter.isSource name := by
  have hout : ∀ names name isFolder, filter.leavesOut [] names name isFolder = isHidden name := by
    intro names name isFolder
    rw [leavesOut, hrules]
    rfl
  induction below generalizing folder with
  | nil => simp [admits]
  | cons name rest ih =>
    cases rest with
    | nil => simp [admits, hout, and_comm]
    | cons next rest =>
      rw [admits, hout, enter, hignore, if_neg Bool.false_ne_true, Bool.and_eq_true]
      refine (and_congr_right fun _ => ih (folder ++ [name])).trans ?_
      simp [and_assoc]

/-! ## Extensions -/

/-- A name has an extension: the text after its last dot, if that is not its first character. -/
def HasExtension (name extension : String) : Prop :=
  ∃ stem, stem ≠ "" ∧ name = stem ++ "." ++ extension ∧ '.' ∉ extension.toList

theorem nameExtension?_eq_some {name extension : String} :
    Path.nameExtension? name = some extension ↔ HasExtension name extension := by
  constructor
  · intro h
    have hsplit := List.takeWhile_append_dropWhile (p := (· != '.')) (l := name.toList.reverse)
    rw [Path.nameExtension?] at h
    split at h
    case h_1 c cs hdrop =>
      rw [hdrop] at hsplit
      cases h
      refine ⟨String.ofList (c :: cs).reverse, by simp, ?_, ?_⟩
      · have hname := congrArg List.reverse hsplit
        rw [List.reverse_reverse] at hname
        apply String.toList_inj.1
        refine hname.symm.trans ?_
        simp
      · intro hdot
        rw [String.toList_ofList, List.mem_reverse] at hdot
        exact absurd (List.all_eq_true.1 List.all_takeWhile _ hdot) (by decide)
    case h_2 => cases h
  · rintro ⟨stem, hstem, rfl, hdot⟩
    have hall : ∀ c ∈ extension.toList.reverse, (c != '.') = true := by
      intro c hc
      rw [bne_iff_ne]
      rintro rfl
      exact hdot (List.mem_reverse.1 hc)
    have hreverse : (stem ++ "." ++ extension).toList.reverse =
        extension.toList.reverse ++ '.' :: stem.toList.reverse := by simp
    obtain ⟨c, cs, hcs⟩ : ∃ c cs, stem.toList.reverse = c :: cs := by
      refine List.exists_cons_of_ne_nil ?_
      simpa using hstem
    rw [Path.nameExtension?, hreverse, List.dropWhile_append_of_pos hall,
      List.takeWhile_append_of_pos hall, hcs]
    simp

/-- The names of source files are those with one of the extensions. -/
theorem Filter.isSource_iff {name : String} :
    filter.isSource name ↔ ∃ extension ∈ filter.extensions, HasExtension name extension := by
  rw [Filter.isSource, Option.any_eq_true]
  simp only [nameExtension?_eq_some, List.contains_iff_mem]
  exact exists_congr fun _ => and_comm

end Discovery

end DeadSymbols
