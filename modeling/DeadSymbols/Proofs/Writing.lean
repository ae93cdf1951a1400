import DeadSymbols.Proofs.Resolution

/-!
# Writing files

To write a file changes at most one entry of a tree: a file gets another content, or a new file
stands where there was nothing. Where a path leads for writing does not depend on such a change, and
what was written is read from the same path.

* `Entry.set_unchanged`, `Entry.set_alike`: what writing changes.
* `Entry.set_set`, `Entry.set_same`: writing a file again.
* `FileTree.toOption_target`: where paths lead for writing stays the same.
* `FileTree.put_unchanged`: a file that was written elsewhere.
* `FileTree.read_of_target`: what was written is read from the same path.
-/

namespace DeadSymbols

/-! ## Alike trees -/

/-- What stands at a place before and after a file was written somewhere: the same kind of entry, or
a new file. -/
inductive Alike : Option Entry → Option Entry → Prop
  | nothing : Alike none none
  | created (content : List UInt8) : Alike none (some (.file content))
  | file (old new : List UInt8) : Alike (some (.file old)) (some (.file new))
  | link (target : String) : Alike (some (.link target)) (some (.link target))
  | folder (old new : List (String × Entry)) : Alike (some (.folder old)) (some (.folder new))

theorem Alike.refl : ∀ e, Alike e e
  | none => .nothing
  | some (.file content) => .file content content
  | some (.link target) => .link target
  | some (.folder es) => .folder es es

theorem Alike.trans {x y z : Option Entry} (h : Alike x y) (h' : Alike y z) : Alike x z := by
  cases h with
  | nothing => exact h'
  | created =>
    cases h' with
    | file => exact .created _
  | file =>
    cases h' with
    | file => exact .file _ _
  | link => exact h'
  | folder =>
    cases h' with
    | folder => exact .folder _ _

theorem Alike.link_eq {x y : Option Entry} {target : String} (h : Alike x y)
    (hx : x = some (.link target)) : y = some (.link target) := by
  subst hx
  cases h
  rfl

theorem Alike.folder_eq {x y : Option Entry} {es : List (String × Entry)} (h : Alike x y)
    (hx : x = some (.folder es)) : ∃ fs, y = some (.folder fs) := by
  subst hx
  cases h
  exact ⟨_, rfl⟩

/-- What stands before and after at a place where nothing was written: the same, or a folder, in
which something may have been written. -/
inductive Unchanged : Option Entry → Option Entry → Prop
  | same (e : Option Entry) : Unchanged e e
  | folder (old new : List (String × Entry)) : Unchanged (some (.folder old)) (some (.folder new))

theorem Unchanged.alike {x y : Option Entry} (h : Unchanged x y) : Alike x y := by
  cases h with
  | same => exact .refl x
  | folder old new => exact .folder old new

theorem Unchanged.trans {x y z : Option Entry} (h : Unchanged x y) (h' : Unchanged y z) :
    Unchanged x z := by
  cases h with
  | same => exact h'
  | folder =>
    cases h' with
    | same => exact .folder _ _
    | folder => exact .folder _ _

theorem Unchanged.file_iff {x y : Option Entry} (h : Unchanged x y) (content : List UInt8) :
    x = some (.file content) ↔ y = some (.file content) := by
  cases h with
  | same => exact Iff.rfl
  | folder => exact iff_of_false nofun nofun

namespace Entry

theorem lookup_setChild (name : String) (e : Entry) (es : List (String × Entry)) (other : String) :
    (setChild name e es).lookup other = if other = name then some e else es.lookup other := by
  induction es with
  | nil =>
    rw [setChild, lookup_cons]
  | cons m es ih =>
    rw [setChild]
    split
    case isTrue hname =>
      rw [lookup_cons, lookup_cons, beq_iff_eq.1 hname]
      split <;> rfl
    case isFalse hname =>
      rw [lookup_cons, lookup_cons, ih]
      by_cases h : other = m.1
      · rw [if_pos h, if_pos h, h, if_neg (mt beq_iff_eq.2 hname)]
      · rw [if_neg h, if_neg h]

/-- A file can be put at a name in a folder: nothing stands there, or a file. -/
def CanHold (es : List (String × Entry)) (name : String) : Prop :=
  es.lookup name = none ∨ ∃ content, es.lookup name = some (.file content)

theorem setChild_setChild (name : String) (a b : Entry) (es : List (String × Entry)) :
    setChild name b (setChild name a es) = setChild name b es := by
  induction es with
  | nil => simp [setChild]
  | cons m es ih =>
    by_cases hname : m.1 == name
    · simp [setChild, hname]
    · simp [setChild, hname, ih]

theorem setChild_same {name : String} {e : Entry} {es : List (String × Entry)}
    (h : es.lookup name = some e) : setChild name e es = es := by
  induction es with
  | nil => cases h
  | cons m es ih =>
    rw [lookup_cons] at h
    rw [setChild]
    split at h
    case isTrue hname =>
      rw [hname, if_pos (beq_self_eq_true m.1), ← Option.some.inj h]
    case isFalse hname =>
      have hother : ¬ (m.1 == name) = true := fun heq => hname (beq_iff_eq.1 heq).symm
      rw [if_neg hother, ih h]

/-- What was put at some names stands there. -/
theorem get?_set (e new : Entry) (names : List String) :
    (e.set names new).get? names = some new := by
  induction names generalizing e with
  | nil => rfl
  | cons name rest ih =>
    rw [set, get?_folder_cons, lookup_setChild, if_pos rfl]
    exact ih _

/-- **What is put last counts.** -/
theorem set_set (e a b : Entry) (names : List String) :
    (e.set names a).set names b = e.set names b := by
  induction names generalizing e with
  | nil => rfl
  | cons name rest ih =>
    have hchild : (setChild name (((e.entries.lookup name).getD (folder [])).set rest a)
        e.entries).lookup name = some (((e.entries.lookup name).getD (folder [])).set rest a) := by
      rw [lookup_setChild, if_pos rfl]
    rw [set, set, set, entries, hchild, Option.getD_some, ih, setChild_setChild]

/-- **To put what stands there changes nothing.** -/
theorem set_same {e new : Entry} {names : List String} (h : e.get? names = some new) :
    e.set names new = e := by
  induction names generalizing e with
  | nil => exact (Option.some.inj h).symm
  | cons name rest ih =>
    cases e with
    | file old => cases h
    | link target => cases h
    | folder es =>
      rw [get?_folder_cons] at h
      obtain ⟨child, hchild, hrest⟩ := Option.bind_eq_some_iff.1 h
      rw [set, entries, hchild, Option.getD_some, ih hrest, setChild_same hchild]

/-- **What writing leaves as it is.** After a file was put into a folder that is there, every other
place is unchanged. -/
theorem set_unchanged {e : Entry} {folder : List String} {es : List (String × Entry)}
    {name : String} (hfolder : e.get? folder = some (.folder es)) (hname : CanHold es name)
    (content : List UInt8) {names : List String} (hne : names ≠ folder ++ [name]) :
    Unchanged (e.get? names) ((e.set (folder ++ [name]) (.file content)).get? names) := by
  induction folder generalizing e names with
  | nil =>
    cases hfolder
    cases names with
    | nil => exact .folder _ _
    | cons first rest =>
      rw [List.nil_append, set, set, get?_folder_cons, get?_folder_cons, entries, lookup_setChild]
      by_cases h : first = name
      · -- there is nothing below a file, and nothing below nothing
        have hrest : rest ≠ [] := by
          rintro rfl
          exact hne (congrArg (fun n => [n]) h)
        obtain ⟨second, more, rfl⟩ := List.exists_cons_of_ne_nil hrest
        rw [if_pos h, h]
        rcases hname with hnone | ⟨old, hold⟩
        · rw [hnone]
          exact .same none
        · rw [hold]
          exact .same none
      · rw [if_neg h]
        exact .same _
  | cons inner rest ih =>
    cases e with
    | file old => cases hfolder
    | link target => cases hfolder
    | folder fs =>
      rw [get?_folder_cons] at hfolder
      obtain ⟨child, hchild, hrest⟩ := Option.bind_eq_some_iff.1 hfolder
      cases names with
      | nil => exact .folder _ _
      | cons first below =>
        rw [List.cons_append, set, get?_folder_cons, get?_folder_cons, entries, lookup_setChild,
          hchild]
        by_cases h : first = inner
        · have hbelow : below ≠ rest ++ [name] := by
            rintro rfl
            exact hne (congrArg (fun n => n :: (rest ++ [name])) h)
          rw [if_pos h, h, hchild]
          exact ih hrest hbelow
        · rw [if_neg h]
          exact .same _

/-- **What writing changes.** After a file was put into a folder that is there, every place holds
the same kind of entry as before, or a new file. -/
theorem set_alike {e : Entry} {folder : List String} {es : List (String × Entry)} {name : String}
    (hfolder : e.get? folder = some (.folder es)) (hname : CanHold es name)
    (content : List UInt8) (names : List String) :
    Alike (e.get? names) ((e.set (folder ++ [name]) (.file content)).get? names) := by
  by_cases h : names = folder ++ [name]
  · have hbefore : e.get? (folder ++ [name]) = es.lookup name := by
      rw [get?_concat, hfolder]
      rfl
    rw [h, get?_set, hbefore]
    rcases hname with hnone | ⟨old, hold⟩
    · rw [hnone]
      exact .created content
    · rw [hold]
      exact .file old content
  · exact (set_unchanged hfolder hname content h).alike

end Entry

theorem Alike.canHold {es fs : List (String × Entry)} {piece : String}
    (h : Alike (es.lookup piece) (fs.lookup piece)) (hes : Entry.CanHold es piece) :
    Entry.CanHold fs piece := by
  rcases hes with hnone | ⟨content, hfile⟩
  · rw [hnone] at h
    cases hfs : fs.lookup piece with
    | none => exact .inl hfs
    | some e =>
      rw [hfs] at h
      cases h with
      | created content => exact .inr ⟨content, hfs⟩
  · rw [hfile] at h
    cases hfs : fs.lookup piece with
    | none => rw [hfs] at h; cases h
    | some e =>
      rw [hfs] at h
      cases h with
      | file _ content => exact .inr ⟨content, hfs⟩

namespace FileTree

variable {tree : FileTree}

/-- Two trees have the same kinds of entries, up to new files in the second. -/
structure IsAlike (tree after : FileTree) : Prop where
  current : after.current = tree.current
  entries : ∀ names, Alike (tree.get? names) (after.get? names)

theorem IsAlike.refl (tree : FileTree) : tree.IsAlike tree := ⟨rfl, fun _ => .refl _⟩

theorem IsAlike.trans {after later : FileTree} (h : tree.IsAlike after)
    (h' : after.IsAlike later) : tree.IsAlike later := by
  refine ⟨h'.current.trans h.current, ?_⟩
  intro names
  exact (h.entries names).trans (h'.entries names)

/-! ## Where files can be written -/

/-- A place for a file is in a folder that is there. -/
theorem writable_place {links : Nat} {names path place : List String}
    (h : tree.writable links names path = .ok place) :
    ∃ folder name es, place = folder ++ [name] ∧ tree.get? folder = some (.folder es) ∧
      Entry.CanHold es name := by
  fun_induction tree.writable links names path with
  | case5 _ _ _ _ _ _ _ ih => exact ih h
  | case6 _ _ _ _ _ _ _ _ ih => exact ih h
  | case8 _ names piece _ es hes _ _ _ hnone =>
    cases h
    exact ⟨names, piece, es, rfl, hes, .inl hnone⟩
  | case12 _ _ _ _ _ _ _ _ _ _ _ ih =>
    rw [dite_eq_ite] at ih
    exact ih h
  | case13 _ names piece _ es hes _ _ _ content hfile =>
    cases h
    exact ⟨names, piece, es, rfl, hes, .inr ⟨content, hfile⟩⟩
  | case15 _ _ _ _ _ _ _ _ _ _ _ ih => exact ih h
  | _ => cases h

theorem IsAlike.folder {after : FileTree} (h : tree.IsAlike after) {names : List String}
    {es : List (String × Entry)} (hes : tree.get? names = some (.folder es)) :
    ∃ fs, after.get? names = some (.folder fs) ∧
      ∀ piece, Alike (es.lookup piece) (fs.lookup piece) := by
  have hfs := h.entries names
  rw [hes] at hfs
  cases hfolder : after.get? names with
  | none => rw [hfolder] at hfs; cases hfs
  | some e =>
    rw [hfolder] at hfs
    cases hfs with
    | folder _ fs =>
      refine ⟨fs, rfl, ?_⟩
      intro piece
      have hpiece := h.entries (names ++ [piece])
      rw [get?_concat, get?_concat, hes, hfolder] at hpiece
      exact hpiece

theorem IsAlike.not_folder {after : FileTree} (h : tree.IsAlike after) {names : List String}
    (hnone : ∀ es, tree.get? names ≠ some (.folder es)) (es : List (String × Entry)) :
    after.get? names ≠ some (.folder es) := by
  intro hes
  have hboth := h.entries names
  rw [hes] at hboth
  cases hbefore : tree.get? names with
  | none => rw [hbefore] at hboth; cases hboth
  | some e =>
    rw [hbefore] at hboth
    cases hboth
    exact hnone _ hbefore

theorem toOption_writable_of_not_folder {names : List String}
    (h : ∀ es, tree.get? names ≠ some (.folder es)) (links : Nat) (piece : String)
    (rest : List String) : (tree.writable links names (piece :: rest)).toOption = none := by
  rw [writable]
  split
  · rfl
  · rfl
  · rfl
  · exact absurd ‹_› (h _)

/-- A name is looked up in its folder. -/
theorem writable_name {names : List String} {es : List (String × Entry)} {piece : String}
    (hes : tree.get? names = some (.folder es)) (hhere : ¬ (piece == "" || piece == ".") = true)
    (hup : ¬ (piece == "..") = true) (hshort : ¬ maxNameBytes < piece.utf8ByteSize) (links : Nat)
    (rest : List String) : tree.writable links names (piece :: rest) =
      match es.lookup piece with
      | none =>
        if rest.isEmpty then .ok (names ++ [piece])
        else if rest.all (· == "") then .error .isDirectory
        else .error .notFound
      | some (.link target) =>
        match links with
        | 0 => .error .tooManyLinks
        | links + 1 =>
          tree.writable links (if Path.isAbsolute target then [] else names)
            (Path.pieces target ++ rest)
      | some (.file _) => if rest.isEmpty then .ok (names ++ [piece]) else .error .notDirectory
      | some (.folder _) => tree.writable links (names ++ [piece]) rest := by
  rw [writable, hes]
  exact (if_neg hhere).trans ((if_neg hup).trans (if_neg hshort))

/-- A file that is new, or has another content, can be opened and not be entered. -/
theorem toOption_writable_file {names : List String} {es : List (String × Entry)} {piece : String}
    (hes : tree.get? names = some (.folder es)) (hhere : ¬ (piece == "" || piece == ".") = true)
    (hup : ¬ (piece == "..") = true) (hshort : ¬ maxNameBytes < piece.utf8ByteSize)
    (hfile : Entry.CanHold es piece) (links : Nat) (rest : List String) :
    (tree.writable links names (piece :: rest)).toOption =
      if rest.isEmpty then some (names ++ [piece]) else none := by
  rw [writable_name hes hhere hup hshort]
  rcases hfile with hnone | ⟨content, hfile⟩
  · rw [hnone]
    cases rest with
    | nil => rfl
    | cons next rest =>
      simp only [List.isEmpty_cons, Bool.false_eq_true, if_false]
      split <;> rfl
  · rw [hfile]
    cases rest <;> rfl

/-- Where a file could be put, one can be opened in an alike tree, and not be entered. -/
theorem IsAlike.toOption_writable_file {after : FileTree} (h : tree.IsAlike after)
    {names : List String} {es : List (String × Entry)} {piece : String}
    (hes : tree.get? names = some (.folder es)) (hhere : ¬ (piece == "" || piece == ".") = true)
    (hup : ¬ (piece == "..") = true) (hshort : ¬ maxNameBytes < piece.utf8ByteSize)
    (hfile : Entry.CanHold es piece) (links : Nat) (rest : List String) :
    (after.writable links names (piece :: rest)).toOption =
      if rest.isEmpty then some (names ++ [piece]) else none := by
  obtain ⟨fs, hfs, hpieces⟩ := h.folder hes
  exact FileTree.toOption_writable_file hfs hhere hup hshort ((hpieces piece).canHold hfile) links
    rest

/-- **Where a path leads for writing** is the same in alike trees, as long as it leads anywhere. -/
theorem toOption_writable {after : FileTree} (h : tree.IsAlike after) (links : Nat)
    (names path : List String) :
    (after.writable links names path).toOption = (tree.writable links names path).toOption := by
  -- a name is looked up in the folder of the same names in both trees, and leads on in both, unless
  -- nothing was there and a new file is: then a file can be opened or made if the path ends there
  fun_induction tree.writable links names path with
  | case1 => rw [writable]
  | case2 _ names _ _ hnone =>
    refine toOption_writable_of_not_folder (h.not_folder ?_) _ _ _
    rw [hnone]
    nofun
  | case3 _ names _ _ _ hfile =>
    refine toOption_writable_of_not_folder (h.not_folder ?_) _ _ _
    rw [hfile]
    nofun
  | case4 _ names _ _ _ hlink =>
    refine toOption_writable_of_not_folder (h.not_folder ?_) _ _ _
    rw [hlink]
    nofun
  | case5 _ _ _ _ _ hes hhere ih =>
    obtain ⟨fs, hfs, -⟩ := h.folder hes
    rw [writable, hfs]
    simp only [if_pos hhere]
    exact ih
  | case6 _ _ _ _ _ hes hhere hup ih =>
    obtain ⟨fs, hfs, -⟩ := h.folder hes
    rw [writable, hfs]
    simp only [if_neg hhere, if_pos hup]
    exact ih
  | case7 _ _ _ _ _ hes hhere hup hlong =>
    obtain ⟨fs, hfs, -⟩ := h.folder hes
    rw [writable, hfs]
    simp only [if_neg hhere, if_neg hup, if_pos hlong]
  | case8 _ _ _ _ _ hes hhere hup hshort hnone hlast =>
    rw [h.toOption_writable_file hes hhere hup hshort (.inl hnone), if_pos hlast]
    rfl
  | case9 _ _ _ _ _ hes hhere hup hshort hnone hmore =>
    rw [h.toOption_writable_file hes hhere hup hshort (.inl hnone), if_neg hmore]
    rfl
  | case10 _ _ _ _ _ hes hhere hup hshort hnone hmore =>
    rw [h.toOption_writable_file hes hhere hup hshort (.inl hnone), if_neg hmore]
    rfl
  | case11 _ piece _ _ hes hhere hup hshort target hlink =>
    obtain ⟨fs, hfs, hpieces⟩ := h.folder hes
    rw [writable_name hfs hhere hup hshort, (hpieces piece).link_eq hlink]
  | case12 _ piece _ _ hes hhere hup hshort target hlink _ ih =>
    obtain ⟨fs, hfs, hpieces⟩ := h.folder hes
    rw [dite_eq_ite] at ih
    rw [writable_name hfs hhere hup hshort, (hpieces piece).link_eq hlink]
    exact ih
  | case13 _ _ _ _ _ hes hhere hup hshort content hfile hlast =>
    rw [h.toOption_writable_file hes hhere hup hshort (.inr ⟨content, hfile⟩), if_pos hlast]
    rfl
  | case14 _ _ _ _ _ hes hhere hup hshort content hfile hmore =>
    rw [h.toOption_writable_file hes hhere hup hshort (.inr ⟨content, hfile⟩), if_neg hmore]
    rfl
  | case15 _ _ piece _ _ hes hhere hup hshort inner hfolder ih =>
    obtain ⟨fs, hfs, hpieces⟩ := h.folder hes
    obtain ⟨inner', hinner⟩ := (hpieces piece).folder_eq hfolder
    rw [writable_name hfs hhere hup hshort, hinner]
    exact ih

/-! ## Files that are written -/

theorem write_eq (tree : FileTree) (path : String) (content : List UInt8) :
    tree.write path content = (tree.target path).map (tree.put · content) := by
  rw [write]
  cases tree.target path <;> rfl

theorem toOption_target {after : FileTree} (h : tree.IsAlike after) (path : String) :
    (after.target path).toOption = (tree.target path).toOption := by
  rw [target, target]
  cases checkPath path with
  | error cause => rfl
  | ok =>
    show (after.writable _ _ _).toOption = (tree.writable _ _ _).toOption
    rw [h.current, toOption_writable h]

theorem writable_of_target {path : String} {place : List String}
    (h : tree.target path = .ok place) :
    checkPath path = .ok () ∧
      tree.writable maxLinks (if Path.isAbsolute path then [] else tree.current)
        (Path.pieces path) = .ok place := by
  rw [target] at h
  cases hcheck : checkPath path with
  | error cause => rw [hcheck] at h; cases h
  | ok =>
    rw [hcheck] at h
    exact ⟨rfl, h⟩

/-- A tree in which a file was written is alike. -/
theorem isAlike_put {path : String} {place : List String} (h : tree.target path = .ok place)
    (content : List UInt8) : tree.IsAlike (tree.put place content) := by
  obtain ⟨-, hplace⟩ := writable_of_target h
  obtain ⟨folder, name, es, rfl, hes, hname⟩ := writable_place hplace
  refine ⟨rfl, ?_⟩
  intro names
  exact Entry.set_alike hes hname content names

/-- **A file that was written elsewhere** leaves what stands at a place unchanged. -/
theorem put_unchanged {path : String} {place : List String} (h : tree.target path = .ok place)
    (content : List UInt8) {names : List String} (hne : names ≠ place) :
    Unchanged (tree.get? names) ((tree.put place content).get? names) := by
  obtain ⟨-, hplace⟩ := writable_of_target h
  obtain ⟨folder, name, es, rfl, hes, hname⟩ := writable_place hplace
  exact Entry.set_unchanged hes hname content hne

theorem get?_put (place : List String) (content : List UInt8) :
    (tree.put place content).get? place = some (.file content) :=
  Entry.get?_set tree.root _ place

theorem put_put (place : List String) (a b : List UInt8) :
    (tree.put place a).put place b = tree.put place b := by
  unfold put
  rw [Entry.set_set]

theorem put_same {place : List String} {content : List UInt8}
    (h : tree.get? place = some (.file content)) : tree.put place content = tree := by
  unfold put
  rw [Entry.set_same h]

/-- Where a path leads for writing, it leads for reading as soon as a file is there. -/
theorem walk_of_writable {links : Nat} {names path place : List String}
    (h : tree.writable links names path = .ok place) {content : List UInt8}
    (hfile : tree.get? place = some (.file content)) :
    tree.walk true links names path = .ok (place, .file content) := by
  fun_induction tree.writable links names path with
  | case5 _ _ _ _ _ hes hhere ih =>
    rw [walk_cons, hes]
    simp only [if_pos hhere]
    exact ih h
  | case6 _ _ _ _ _ hes hhere hup ih =>
    rw [walk_cons, hes]
    simp only [if_neg hhere, if_pos hup]
    exact ih h
  | case8 _ _ _ _ _ hes _ _ _ hnone =>
    -- nothing is there yet
    cases h
    rw [get?_concat, hes] at hfile
    cases hnone.symm.trans hfile
  | case12 _ _ _ _ hes hhere hup hshort _ hlink _ ih =>
    rw [dite_eq_ite] at ih
    rw [walk_cons, hes]
    simp only [if_neg hhere, if_neg hup, if_neg hshort, hlink, Bool.not_true, Bool.false_and,
      Bool.false_eq_true, if_false]
    exact ih h
  | case13 _ _ _ rest _ hes hhere hup hshort _ hthere hlast =>
    cases h
    rw [walk_cons, hes]
    simp only [if_neg hhere, if_neg hup, if_neg hshort, hthere]
    rw [List.isEmpty_iff.1 hlast, walk_nil, hfile]
  | case15 _ _ _ _ _ hes hhere hup hshort _ hfolder ih =>
    rw [walk_cons, hes]
    simp only [if_neg hhere, if_neg hup, if_neg hshort, hfolder]
    exact ih h
  | _ => cases h

/-- **What was written is read from the same path.** -/
theorem read_of_target {path : String} {place : List String} (h : tree.target path = .ok place)
    {content : List UInt8} (hfile : tree.get? place = some (.file content)) :
    tree.read path = .ok content := by
  obtain ⟨hcheck, hplace⟩ := writable_of_target h
  have hlocate : tree.locate path = .ok (place, .file content) := by
    unfold locate locateWith
    rw [hcheck]
    exact walk_of_writable hplace hfile
  unfold read
  rw [hlocate]
  rfl

/-- A file that may be asked for can be opened for writing. -/
def CanOpen (tree : FileTree) (path : Option String) : Prop :=
  ∀ p, path = some p → (tree.target p).isOk

theorem canOpen_none : tree.CanOpen none := nofun

theorem canOpen_some {path : String} : tree.CanOpen (some path) ↔ (tree.target path).isOk :=
  ⟨fun h => h path rfl, fun h _ heq => Option.some.inj heq ▸ h⟩

theorem isOk_target {after : FileTree} (h : tree.IsAlike after) (path : String) :
    (after.target path).isOk = (tree.target path).isOk := by
  have hsame := toOption_target h path
  cases hafter : after.target path <;> cases hbefore : tree.target path <;>
    rw [hafter, hbefore] at hsame
  · rfl
  · cases hsame
  · cases hsame
  · rfl

theorem canOpen_congr {after : FileTree} (h : tree.IsAlike after) (path : Option String) :
    after.CanOpen path ↔ tree.CanOpen path := by
  cases path with
  | none => exact iff_of_true canOpen_none canOpen_none
  | some path => rw [canOpen_some, canOpen_some, isOk_target h]

end FileTree

end DeadSymbols
