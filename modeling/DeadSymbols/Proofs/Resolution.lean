import DeadSymbols.FileTree

/-!
# Where paths lead

The names of an entry of a tree, put together to a path, lead back to the entry: there are no
links, dots or repeated slashes on the way. Whatever path an entry is found by, its names do not
depend on how the path was spelled.

* `FileTree.IsSound`: trees as a file system can hold them.
* `Entry.get?_append`: looking up names in two steps.
* `FileTree.get?_of_walk`: what following a path ends at is the entry at the names it gives.
* `FileTree.walk_names`: following names that are there.
* `FileTree.isCanonical_ofNames`: the path of an entry leads to it.
-/

namespace DeadSymbols

/-! ## Entries -/

namespace Entry

/-- Induction over trees: from the entries of a folder to the folder. -/
@[elab_as_elim]
theorem tree_induction {P : Entry → Prop} (file : ∀ content, P (.file content))
    (link : ∀ target, P (.link target))
    (folder : ∀ es : List (String × Entry), (∀ m ∈ es, P m.2) → P (.folder es)) : ∀ e, P e
  | .file content => file content
  | .link target => link target
  | .folder es => folder es fun m _ => tree_induction file link folder m.2
termination_by e => sizeOf e
decreasing_by
  rename_i hm
  have hlt := List.sizeOf_lt_of_mem hm
  obtain ⟨name, e⟩ := m
  simp only [Prod.mk.sizeOf_spec, Entry.folder.sizeOf_spec] at hlt ⊢
  omega

@[simp] theorem get?_nil (e : Entry) : e.get? [] = some e := rfl

@[simp] theorem get?_folder_cons (es : List (String × Entry)) (name : String)
    (names : List String) :
    (folder es).get? (name :: names) = (es.lookup name).bind (get? names) := rfl

/-- Names are looked up one after another. -/
theorem get?_append (e : Entry) (xs ys : List String) :
    e.get? (xs ++ ys) = (e.get? xs).bind (get? ys) := by
  induction xs generalizing e with
  | nil => rfl
  | cons x xs ih =>
    rw [List.cons_append, get?, get?]
    cases e.child? x with
    | none => rfl
    | some c => exact ih c

theorem get?_concat (e : Entry) (names : List String) (name : String) :
    e.get? (names ++ [name]) = (e.get? names).bind (child? name) := by
  rw [get?_append]
  cases e.get? names with
  | none => rfl
  | some c => exact Option.bind_fun_some (c.child? name)

end Entry

/-- A name that an entry of a folder can have. -/
structure IsEntryName (name : String) : Prop where
  ne_empty : name ≠ ""
  ne_here : name ≠ "."
  ne_up : name ≠ ".."
  slash : '/' ∉ name.toList
  nul : Char.ofNat 0 ∉ name.toList
  short : name.utf8ByteSize ≤ FileTree.maxNameBytes

instance (name : String) : Decidable (IsEntryName name) :=
  decidable_of_iff (name ≠ "" ∧ name ≠ "." ∧ name ≠ ".." ∧ '/' ∉ name.toList ∧
      Char.ofNat 0 ∉ name.toList ∧ name.utf8ByteSize ≤ FileTree.maxNameBytes)
    ⟨fun ⟨h, h', h'', hslash, hnul, hshort⟩ => ⟨h, h', h'', hslash, hnul, hshort⟩,
      fun h => ⟨h.ne_empty, h.ne_here, h.ne_up, h.slash, h.nul, h.short⟩⟩

/-- Some entries can stand in one folder. -/
structure AreSiblings (es : List (String × Entry)) : Prop where
  nodup : (es.map Prod.fst).Nodup
  names : ∀ m ∈ es, IsEntryName m.1

instance (es : List (String × Entry)) : Decidable (AreSiblings es) :=
  decidable_of_iff ((es.map Prod.fst).Nodup ∧ ∀ m ∈ es, IsEntryName m.1)
    ⟨fun ⟨h, h'⟩ => ⟨h, h'⟩, fun h => ⟨h.nodup, h.names⟩⟩

/-- The entries of every folder have names that entries can have, each another one. -/
def Entry.IsSound (e : Entry) : Prop :=
  ∀ names es, e.get? names = some (.folder es) → AreSiblings es

/-- A tree that a file system can hold. -/
def FileTree.IsSound (tree : FileTree) : Prop := tree.root.IsSound

namespace Entry

theorem isSound_file (content : List UInt8) : (file content).IsSound := by
  intro names es h
  cases names <;> cases h

theorem isSound_link (target : String) : (link target).IsSound := by
  intro names es h
  cases names <;> cases h

theorem mem_of_lookup {es : List (String × Entry)} {name : String} {e : Entry}
    (h : es.lookup name = some e) : (name, e) ∈ es := by
  obtain ⟨before, after, rfl, -⟩ := List.lookup_eq_some_iff.1 h
  exact List.mem_append_right _ List.mem_cons_self

theorem lookup_cons (m : String × Entry) (es : List (String × Entry)) (name : String) :
    (m :: es).lookup name = if name = m.1 then some m.2 else es.lookup name := by
  rw [List.lookup_cons]
  by_cases h : name = m.1
  · rw [if_pos h, beq_iff_eq.2 h]
  · rw [if_neg h, beq_eq_false_iff_ne.2 h]

theorem lookup_of_mem {es : List (String × Entry)} (hnodup : (es.map Prod.fst).Nodup)
    {name : String} {e : Entry} (h : (name, e) ∈ es) : es.lookup name = some e := by
  induction es with
  | nil => cases h
  | cons m es ih =>
    obtain ⟨hm, hes⟩ := List.nodup_cons.1 hnodup
    rw [lookup_cons]
    rcases List.mem_cons.1 h with rfl | h
    · exact if_pos rfl
    · have hne : name ≠ m.1 := by
        rintro rfl
        exact hm (List.mem_map.2 ⟨_, h, rfl⟩)
      rw [if_neg hne]
      exact ih hes h

theorem isSound_folder {es : List (String × Entry)} (hes : AreSiblings es)
    (h : ∀ m ∈ es, m.2.IsSound) : (folder es).IsSound := by
  intro names inner hinner
  cases names with
  | nil =>
    cases hinner
    exact hes
  | cons name rest =>
    rw [get?_folder_cons] at hinner
    obtain ⟨e, he, hrest⟩ := Option.bind_eq_some_iff.1 hinner
    exact h _ (mem_of_lookup he) rest inner hrest

theorem IsSound.siblings {es : List (String × Entry)} (h : (folder es).IsSound) :
    AreSiblings es := h [] es rfl

theorem IsSound.entry {es : List (String × Entry)} (h : (folder es).IsSound)
    {m : String × Entry} (hm : m ∈ es) : m.2.IsSound := by
  intro names inner hinner
  refine h (m.1 :: names) inner ?_
  rw [get?_folder_cons, lookup_of_mem h.siblings.nodup hm]
  exact hinner

theorem isSound_folder_iff {es : List (String × Entry)} :
    (folder es).IsSound ↔ AreSiblings es ∧ ∀ m ∈ es, m.2.IsSound :=
  ⟨fun h => ⟨h.siblings, fun _ => h.entry⟩, fun h => isSound_folder h.1 h.2⟩

/-- What stands in a sound tree is a sound tree. -/
theorem IsSound.get? {e found : Entry} {names : List String} (h : e.IsSound)
    (hfound : e.get? names = some found) : found.IsSound := by
  intro below es hes
  refine h (names ++ below) es ?_
  rw [get?_append, hfound]
  exact hes

/-- The names of an entry of a sound tree are names that entries can have. -/
theorem IsSound.names {e found : Entry} {names : List String} (h : e.IsSound)
    (hfound : e.get? names = some found) : ∀ name ∈ names, IsEntryName name := by
  induction names generalizing e with
  | nil => intro name hname; cases hname
  | cons first rest ih =>
    cases e with
    | file content => cases hfound
    | link target => cases hfound
    | folder es =>
      rw [get?_folder_cons] at hfound
      obtain ⟨child, hchild, hrest⟩ := Option.bind_eq_some_iff.1 hfound
      have hmem := mem_of_lookup hchild
      intro name hname
      rcases List.mem_cons.1 hname with rfl | hname
      · exact h.siblings.names _ hmem
      · exact ih (h.entry hmem) hrest name hname

end Entry

/-! ## Paths of names -/

namespace Path

theorem splitSlash_name {piece : List Char} (h : '/' ∉ piece) (before : List Char) :
    splitSlash before piece = [before.reverse ++ piece] := by
  induction piece generalizing before with
  | nil => simp [splitSlash]
  | cons c cs ih =>
    obtain ⟨hc, hcs⟩ := not_or.1 (mt List.mem_cons.2 h)
    have hne : (c == '/') = false := beq_eq_false_iff_ne.2 (Ne.symm hc)
    rw [splitSlash, hne, if_neg Bool.false_ne_true, ih hcs]
    simp

theorem splitSlash_slash {piece : List Char} (h : '/' ∉ piece) (before rest : List Char) :
    splitSlash before (piece ++ '/' :: rest) =
      (before.reverse ++ piece) :: splitSlash [] rest := by
  induction piece generalizing before with
  | nil => simp [splitSlash]
  | cons c cs ih =>
    obtain ⟨hc, hcs⟩ := not_or.1 (mt List.mem_cons.2 h)
    have hne : (c == '/') = false := beq_eq_false_iff_ne.2 (Ne.symm hc)
    rw [List.cons_append, splitSlash, hne, if_neg Bool.false_ne_true, ih hcs]
    simp

theorem splitSlash_names {names : List String} (h : ∀ name ∈ names, '/' ∉ name.toList)
    {piece : List Char} (hpiece : '/' ∉ piece) :
    splitSlash [] (piece ++ names.flatMap fun name => '/' :: name.toList) =
      piece :: names.map String.toList := by
  induction names generalizing piece with
  | nil =>
    rw [List.flatMap_nil, List.append_nil, splitSlash_name hpiece]
    rfl
  | cons name rest ih =>
    rw [List.flatMap_cons, List.cons_append, splitSlash_slash hpiece,
      ih (fun n hn => h n (List.mem_cons_of_mem _ hn)) (h name List.mem_cons_self)]
    rfl

theorem toList_ofNames {names : List String} (h : names ≠ []) :
    (ofNames names).toList = names.flatMap fun name => '/' :: name.toList := by
  have hjoin : ∀ names : List String, (String.join (names.map ("/" ++ ·))).toList =
      names.flatMap fun name => '/' :: name.toList := by
    intro names
    induction names with
    | nil => rfl
    | cons name rest ih => simp [String.join_cons, String.toList_append, ih]
  cases names with
  | nil => exact absurd rfl h
  | cons name rest => exact hjoin (name :: rest)

/-- The pieces of the path of some names: nothing in front of the first slash, and the names. -/
theorem pieces_ofNames {names : List String} (h : ∀ name ∈ names, '/' ∉ name.toList)
    (hne : names ≠ []) : pieces (ofNames names) = "" :: names := by
  have hsplit := splitSlash_names h (List.not_mem_nil (a := '/'))
  rw [List.nil_append] at hsplit
  rw [pieces, toList_ofNames hne, hsplit, List.map_cons, List.map_map]
  simp [Function.comp_def]

theorem isAbsolute_ofNames (names : List String) : isAbsolute (ofNames names) = true := by
  cases names with
  | nil => decide +kernel
  | cons name rest =>
    rw [isAbsolute, toList_ofNames (List.cons_ne_nil _ _)]
    rfl

end Path

/-! ## Following paths -/

namespace FileTree

variable {tree : FileTree}

theorem get?_append (tree : FileTree) (xs ys : List String) :
    tree.get? (xs ++ ys) = (tree.get? xs).bind (Entry.get? ys) := tree.root.get?_append xs ys

theorem get?_concat (tree : FileTree) (names : List String) (name : String) :
    tree.get? (names ++ [name]) = (tree.get? names).bind (Entry.child? name) :=
  tree.root.get?_concat names name

section Walks

variable (tree) (follow : Bool) (links : Nat) (names : List String)

theorem walk_nil : tree.walk follow links names [] =
    match tree.get? names with
    | some e => .ok (names, e)
    | none => .error .notFound := by
  cases links <;> rfl

theorem walk_cons (piece : String) (rest : List String) :
    tree.walk follow links names (piece :: rest) =
      match tree.get? names with
      | none => .error .notFound
      | some (.file _) | some (.link _) => .error .notDirectory
      | some (.folder entries) =>
        if piece == "" || piece == "." then tree.walk follow links names rest
        else if piece == ".." then tree.walk follow links names.dropLast rest
        else if maxNameBytes < piece.utf8ByteSize then .error .nameTooLong
        else
          match entries.lookup piece with
          | none => .error .notFound
          | some (.link target) =>
            if !follow && rest.isEmpty then .ok (names ++ [piece], .link target)
            else
              match links with
              | 0 => .error .tooManyLinks
              | links + 1 =>
                tree.walk follow links (if Path.isAbsolute target then [] else names)
                  (Path.pieces target ++ rest)
          | some _ => tree.walk follow links (names ++ [piece]) rest := by
  cases links <;> rfl

end Walks

/-- **What following a path ends at is the entry at the names that it gives**, if that holds of what
follows links. -/
theorem get?_of_walkTo {follow : Bool}
    {onLink : List String → List String → Except OsError (List String × Entry)}
    (hlink : ∀ names path found e, onLink names path = .ok (found, e) → tree.get? found = some e)
    {names path found : List String} {e : Entry}
    (h : tree.walkTo follow onLink names path = .ok (found, e)) : tree.get? found = some e := by
  fun_induction tree.walkTo follow onLink names path with
  | case1 _ _ he =>
    cases h
    exact he
  | case6 _ _ _ _ _ _ ih => exact ih h
  | case7 _ _ _ _ _ _ _ ih => exact ih h
  | case10 names piece rest es hes _ _ _ target hlast _ =>
    -- the last link is not followed
    cases h
    rw [get?_concat, hes]
    exact hlast
  | case11 => exact hlink _ _ _ _ h
  | case12 _ _ _ _ _ _ _ _ _ _ _ ih => exact ih h
  | _ => cases h

theorem get?_of_walk {follow : Bool} {links : Nat} {names path found : List String} {e : Entry}
    (h : tree.walk follow links names path = .ok (found, e)) : tree.get? found = some e := by
  induction links generalizing names path found e with
  | zero => exact get?_of_walkTo (fun _ _ _ _ h => by cases h) h
  | succ links ih => exact get?_of_walkTo (fun _ _ _ _ h => ih h) h

/-- A name of a folder is followed into it. -/
theorem walk_name {names : List String} {es : List (String × Entry)} {name : String} {e : Entry}
    (hfolder : tree.get? names = some (.folder es)) (hname : IsEntryName name)
    (he : es.lookup name = some e) (hlink : ∀ target, e ≠ .link target) (follow : Bool)
    (links : Nat) (rest : List String) :
    tree.walk follow links names (name :: rest) =
      tree.walk follow links (names ++ [name]) rest := by
  have hhere : (name == "" || name == ".") = false := by
    rw [Bool.or_eq_false_iff, beq_eq_false_iff_ne, beq_eq_false_iff_ne]
    exact ⟨hname.ne_empty, hname.ne_here⟩
  have hup : (name == "..") = false := beq_eq_false_iff_ne.2 hname.ne_up
  rw [walk_cons, hfolder]
  simp only [hhere, hup, he, if_neg (Nat.not_lt.2 hname.short), Bool.false_eq_true, if_false]

/-- **Names that are there are followed as they stand.** -/
theorem walk_names (hsound : tree.IsSound) (names : List String) {below : List String} {e : Entry}
    (h : tree.get? (names ++ below) = some e) (hlink : ∀ target, e ≠ .link target) (follow : Bool)
    (links : Nat) : tree.walk follow links names below = .ok (names ++ below, e) := by
  induction below generalizing names with
  | nil =>
    rw [List.append_nil] at h ⊢
    rw [walk_nil, h]
  | cons name rest ih =>
    have hnames := hsound.names h
    have hinside := h
    rw [get?_append] at h
    obtain ⟨folder, hfolder, hrest⟩ := Option.bind_eq_some_iff.1 h
    cases folder with
    | file content => cases hrest
    | link target => cases hrest
    | folder es =>
      rw [Entry.get?_folder_cons] at hrest
      obtain ⟨child, hchild, hlast⟩ := Option.bind_eq_some_iff.1 hrest
      -- a link would lead nowhere without being followed, and is not what is found
      have hnolink : ∀ target, child ≠ .link target := by
        rintro target rfl
        cases rest with
        | nil => exact hlink target (Option.some.inj hlast).symm
        | cons => cases hlast
      rw [List.append_cons] at hinside
      rw [walk_name hfolder (hnames name (by simp)) hchild hnolink, ih _ hinside, List.append_assoc]
      rfl

/-- What a path from the root leads to, if it is not too long to be followed at all. -/
def leadsTo (tree : FileTree) (path : String) : Except OsError (List String × Entry) :=
  tree.walk true maxLinks [] (Path.pieces path)

theorem checkPath_ofNames {names : List String} (h : ∀ name ∈ names, IsEntryName name) :
    checkPath (Path.ofNames names) =
      if maxPathBytes < (Path.ofNames names).utf8ByteSize then .error .nameTooLong else .ok () := by
  have hchars : (Path.ofNames names).toList.any (· == Char.ofNat 0) = false := by
    cases names with
    | nil => rfl
    | cons first rest =>
      rw [Path.toList_ofNames (List.cons_ne_nil _ _), List.any_eq_false]
      intro c hc
      obtain ⟨name, hname, hc⟩ := List.mem_flatMap.1 hc
      rw [beq_iff_eq]
      rintro rfl
      rcases List.mem_cons.1 hc with hslash | hc
      · exact absurd hslash (by decide)
      · exact (h name hname).nul hc
  have hempty : (Path.ofNames names).isEmpty = false := by
    rw [Bool.eq_false_iff]
    intro hempty
    have habs := Path.isAbsolute_ofNames names
    rw [String.isEmpty_iff.1 hempty] at habs
    exact absurd habs (by decide)
  rw [checkPath, hchars, hempty]
  rfl

/-- **The path of an entry leads to it.** Names of a tree that are put together to a path are found
again, and nothing on the way is a link. -/
theorem leadsTo_ofNames (hsound : tree.IsSound) {names : List String} {e : Entry}
    (h : tree.get? names = some e) (hlink : ∀ target, e ≠ .link target)
    (hroot : names = [] → e.isFolder) : tree.leadsTo (Path.ofNames names) = .ok (names, e) := by
  have hnames := hsound.names h
  cases names with
  | nil =>
    cases e with
    | file content => exact absurd (hroot rfl) Bool.false_ne_true
    | link target => exact absurd rfl (hlink target)
    | folder es =>
      -- the pieces in front of and behind the slash are empty
      have hpieces : Path.pieces (Path.ofNames []) = ["", ""] := by decide +kernel
      rw [leadsTo, hpieces, walk_cons, h]
      simp only [beq_self_eq_true, Bool.true_or, if_true]
      rw [walk_cons, h]
      simp only [beq_self_eq_true, Bool.true_or, if_true]
      rw [walk_nil, h]
  | cons name rest =>
    -- the piece in front of the first slash is empty and asks for the root to be a folder
    obtain ⟨es, hes⟩ : ∃ es, tree.get? [] = some (.folder es) := by
      rw [get?] at h
      rw [get?, Entry.get?_nil]
      cases hr : tree.root with
      | folder es => exact ⟨es, rfl⟩
      | file content => rw [hr] at h; cases h
      | link target => rw [hr] at h; cases h
    rw [leadsTo, Path.pieces_ofNames (fun n hn => (hnames n hn).slash) (List.cons_ne_nil _ _),
      walk_cons, hes]
    exact walk_names hsound [] h hlink true maxLinks

/-- Unless a path is too long, looking it up is following it. -/
theorem locate_ofNames {names : List String} (hnames : ∀ name ∈ names, IsEntryName name)
    (hfits : (Path.ofNames names).utf8ByteSize ≤ maxPathBytes) :
    tree.locate (Path.ofNames names) = tree.leadsTo (Path.ofNames names) := by
  rw [locate, locateWith, checkPath_ofNames hnames, if_neg (Nat.not_lt.2 hfits),
    Path.isAbsolute_ofNames]
  rfl

/-- A path is canonical for an entry: it is put together of the names to which it leads. That it
leads there can be asked of the system unless it is longer than any path may be. -/
structure IsCanonical (tree : FileTree) (path : String) (names : List String) (e : Entry) :
    Prop where
  eq : path = Path.ofNames names
  leads : tree.leadsTo path = .ok (names, e)
  located : path.utf8ByteSize ≤ maxPathBytes → tree.locate path = .ok (names, e)

/-- The names of an entry make its canonical path. -/
theorem isCanonical_ofNames (hsound : tree.IsSound) {names : List String} {e : Entry}
    (h : tree.get? names = some e) (hlink : ∀ target, e ≠ .link target)
    (hroot : names = [] → e.isFolder) : tree.IsCanonical (Path.ofNames names) names e := by
  have hleads := leadsTo_ofNames hsound h hlink hroot
  refine ⟨rfl, hleads, ?_⟩
  intro hfits
  rw [locate_ofNames (hsound.names h) hfits, hleads]

/-- What a path leads to is the entry at the names that it gives. -/
theorem get?_of_locate {path : String} {names : List String} {e : Entry}
    (h : tree.locate path = .ok (names, e)) : tree.get? names = some e := by
  rw [locate, locateWith] at h
  cases hcheck : checkPath path with
  | error cause => rw [hcheck] at h; cases h
  | ok =>
    rw [hcheck] at h
    exact get?_of_walk h

end FileTree

end DeadSymbols
