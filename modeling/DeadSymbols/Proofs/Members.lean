import DeadSymbols.Json.Record

/-!
# Members of values in normal form

The normal form of an object has the same members under the same keys: of a repeated key the last.

* `Json.mem_sortMembers`: the members of the normal form.
* `Json.get_normal`: looking up a key commutes with taking the normal form.
* `Json.record_normal`: an object in normal form is a record, whatever its keys were.
-/

namespace DeadSymbols.Json

/-- Members in strictly increasing order of keys. -/
def Sorted (members : List (String × Json)) : Prop := members.Pairwise fun a b => a.1 < b.1

theorem Sorted.tail {m : String × Json} {ms : List (String × Json)} (h : Sorted (m :: ms)) :
    Sorted ms := (List.pairwise_cons.1 h).2

theorem Sorted.head {m : String × Json} {ms : List (String × Json)} (h : Sorted (m :: ms))
    {k : String} {v : Json} (hv : (k, v) ∈ ms) : m.1 < k := (List.pairwise_cons.1 h).1 (k, v) hv

theorem Sorted.cons {k : String} {v : Json} {ms : List (String × Json)} (h : Sorted ms)
    (hlt : ∀ k' v', (k', v') ∈ ms → k < k') : Sorted ((k, v) :: ms) :=
  List.pairwise_cons.2 ⟨fun m hm => hlt m.1 m.2 hm, h⟩

/-- A key stands once among sorted members. -/
theorem Sorted.unique {ms : List (String × Json)} (h : Sorted ms) {k : String} {v w : Json}
    (hv : (k, v) ∈ ms) (hw : (k, w) ∈ ms) : v = w := by
  induction ms with
  | nil => cases hv
  | cons m ms ih =>
    have hno : ∀ {u u' : Json}, (k, u) = m → (k, u') ∈ ms → False := by
      rintro u u' rfl hu'
      exact String.lt_irrefl k (h.head hu')
    rcases List.mem_cons.1 hv with hv | hv
    · rcases List.mem_cons.1 hw with hw | hw
      · exact (Prod.mk.inj (hv.trans hw.symm)).2
      · exact (hno hv hw).elim
    · rcases List.mem_cons.1 hw with hw | hw
      · exact (hno hw hv).elim
      · exact ih h.tail hv hw

/-- What `insertMember` makes of sorted members. -/
theorem insertMember_spec (key : String) (value : Json) (ms : List (String × Json))
    (h : Sorted ms) : Sorted (insertMember key value ms) ∧ ∀ k v,
      (k, v) ∈ insertMember key value ms ↔ (k = key ∧ v = value) ∨ (k ≠ key ∧ (k, v) ∈ ms) := by
  induction ms with
  | nil => exact ⟨List.pairwise_singleton _ _, fun k v => by simp [insertMember]⟩
  | cons m ms ih =>
    obtain ⟨k', v'⟩ := m
    obtain ⟨hsorted, hmem⟩ := ih h.tail
    unfold insertMember
    split
    -- the key comes before all keys
    · rename_i hless
      have hall : ∀ k v, (k, v) ∈ (k', v') :: ms → key < k := by
        intro k v hkv
        rcases List.mem_cons.1 hkv with hkv | hkv
        · rw [(Prod.mk.inj hkv).1]; exact hless
        · exact String.lt_trans hless (h.head hkv)
      refine ⟨h.cons hall, fun k v => ?_⟩
      have hne : (k, v) ∈ (k', v') :: ms → k ≠ key := by
        rintro hkv rfl
        exact String.lt_irrefl _ (hall _ _ hkv)
      rw [List.mem_cons, Prod.mk.injEq]
      exact or_congr_right ⟨fun hkv => ⟨hne hkv, hkv⟩, And.right⟩
    · rename_i hless
      split
      -- the key is there, and its value is replaced
      · rename_i hsame
        have hsame' : key = k' := by simpa using hsame
        subst hsame'
        refine ⟨h.tail.cons fun k v hkv => h.head hkv, fun k v => ?_⟩
        have hne : (k, v) ∈ ms → k ≠ key := by
          rintro hkv rfl
          exact String.lt_irrefl _ (h.head hkv)
        simp only [List.mem_cons, Prod.mk.injEq]
        constructor
        · rintro (hkv | hkv)
          · exact .inl hkv
          · exact .inr ⟨hne hkv, .inr hkv⟩
        · rintro (hkv | ⟨hk, hkv | hkv⟩)
          · exact .inl hkv
          · exact absurd hkv.1 hk
          · exact .inr hkv
      -- the key comes later
      · rename_i hother
        have hne : key ≠ k' := by simpa using hother
        have hmore : k' < key := by
          apply Decidable.byContradiction
          intro hnot
          exact hne (String.le_antisymm hnot hless)
        constructor
        · refine hsorted.cons fun k v hkv => ?_
          rcases (hmem k v).1 hkv with ⟨rfl, -⟩ | ⟨-, hkv⟩
          · exact hmore
          · exact h.head hkv
        · intro k v
          simp only [List.mem_cons, Prod.mk.injEq, hmem k v]
          constructor
          · rintro (⟨rfl, rfl⟩ | hkv | ⟨hk, hkv⟩)
            · exact .inr ⟨hne.symm, .inl ⟨rfl, rfl⟩⟩
            · exact .inl hkv
            · exact .inr ⟨hk, .inr hkv⟩
          · rintro (hkv | ⟨hk, hkv | hkv⟩)
            · exact .inr (.inl hkv)
            · exact .inl hkv
            · exact .inr (.inr ⟨hk, hkv⟩)

/-! ## Lookups -/

theorem lookup_cons (key : String) (m : String × Json) (ms : List (String × Json)) :
    lookup? key (m :: ms) = (lookup? key ms).or (if m.1 == key then some m.2 else none) := by
  simp only [lookup?, List.reverse_cons, List.find?_append]
  cases (ms.reverse.find? (·.1 == key)) with
  | some found => rfl
  | none =>
    simp only [Option.none_or, Option.map_none, List.find?_cons, List.find?_nil]
    cases m.1 == key <;> rfl

/-- A key with a value is a key of a member. -/
theorem mem_of_lookup {key : String} {v : Json} {ms : List (String × Json)}
    (h : lookup? key ms = some v) : (key, v) ∈ ms := by
  induction ms with
  | nil => cases h
  | cons m ms ih =>
    rw [lookup_cons] at h
    cases hrest : lookup? key ms with
    | some w =>
      rw [hrest] at h
      exact List.mem_cons_of_mem _ (ih (hrest.trans h))
    | none =>
      rw [hrest, Option.none_or] at h
      split at h
      · rename_i hkey
        rw [beq_iff_eq] at hkey
        rw [← Option.some.inj h, ← hkey]
        exact List.mem_cons_self
      · cases h

theorem lookup_eq_none {key : String} {ms : List (String × Json)} :
    lookup? key ms = none ↔ ∀ v, (key, v) ∉ ms := by
  induction ms with
  | nil => simp [lookup?]
  | cons m ms ih =>
    obtain ⟨k, w⟩ := m
    rw [lookup_cons, Option.or_eq_none_iff, ih]
    by_cases hkey : k = key
    · subst hkey
      refine ⟨fun h => ?_, fun h => absurd List.mem_cons_self (h w)⟩
      rw [if_pos (beq_self_eq_true k)] at h
      cases h.2
    · have hkey' : ¬ key = k := fun h => hkey h.symm
      simp [hkey, hkey']

/-- The value of a key among sorted members is that of its one member. -/
theorem lookup_sorted {ms : List (String × Json)} (h : Sorted ms) {key : String} {v : Json} :
    lookup? key ms = some v ↔ (key, v) ∈ ms := by
  refine ⟨mem_of_lookup, fun hv => ?_⟩
  cases hfound : lookup? key ms with
  | none => exact absurd hv (lookup_eq_none.1 hfound v)
  | some w => rw [h.unique (mem_of_lookup hfound) hv]

theorem foldl_insertMember (ms sorted : List (String × Json)) (h : Sorted sorted) :
    let all := ms.foldl (fun sorted m => insertMember m.1 m.2 sorted) sorted
    Sorted all ∧ ∀ k v, (k, v) ∈ all ↔
      lookup? k ms = some v ∨ (lookup? k ms = none ∧ (k, v) ∈ sorted) := by
  induction ms generalizing sorted with
  | nil => exact ⟨h, fun k v => by simp [lookup?]⟩
  | cons m ms ih =>
    obtain ⟨hinsert, hmem⟩ := insertMember_spec m.1 m.2 sorted h
    obtain ⟨hsorted, hall⟩ := ih _ hinsert
    refine ⟨hsorted, fun k v => ?_⟩
    rw [List.foldl_cons, hall, hmem, lookup_cons]
    cases lookup? k ms with
    | some w => simp
    | none =>
      by_cases hkey : k = m.1
      · simp [hkey, eq_comm]
      · have hkey' : ¬ m.1 = k := fun h => hkey h.symm
        simp [hkey, hkey']

/-- **The members of the normal form**: each key once, with the value of its last member. -/
theorem mem_sortMembers (ms : List (String × Json)) :
    Sorted (sortMembers ms) ∧ ∀ k v, (k, v) ∈ sortMembers ms ↔ lookup? k ms = some v := by
  obtain ⟨hsorted, hmem⟩ := foldl_insertMember ms [] .nil
  exact ⟨hsorted, fun k v => by rw [sortMembers, hmem]; simp⟩

theorem lookup_sortMembers (key : String) (ms : List (String × Json)) :
    lookup? key (sortMembers ms) = lookup? key ms := by
  obtain ⟨hsorted, hmem⟩ := mem_sortMembers ms
  cases hfound : lookup? key ms with
  | some v => rw [lookup_sorted hsorted, hmem, hfound]
  | none =>
    rw [lookup_eq_none]
    intro v hv
    rw [hmem, hfound] at hv
    cases hv

theorem lookup_normalMembers (key : String) (ms : List (String × Json)) :
    lookup? key (normalMembers ms) = (lookup? key ms).map normal := by
  induction ms with
  | nil => rfl
  | cons m ms ih =>
    obtain ⟨k, v⟩ := m
    rw [normalMembers, lookup_cons, lookup_cons, ih, normalMember]
    cases lookup? key ms with
    | some w => rfl
    | none =>
      simp only [Option.map_none, Option.none_or]
      cases k == key <;> rfl

/-- **Looking up a key commutes with taking the normal form.** -/
theorem get_normal (v : Json) (key : String) : v.normal.get? key = (v.get? key).map normal := by
  cases v with
  | object ms =>
    show lookup? key (sortMembers (normalMembers ms)) = _
    rw [lookup_sortMembers, lookup_normalMembers]
    rfl
  | _ => rfl

/-! ## Records -/

/-- Leaving out members with other keys leaves the value of a key. -/
theorem lookup_filter {keep : String × Json → Bool} {name : String}
    (hname : ∀ v, keep (name, v) = true) (ms : List (String × Json)) :
    (ms.filter keep).lookup name = ms.lookup name := by
  induction ms with
  | nil => rfl
  | cons m ms ih =>
    obtain ⟨k, v⟩ := m
    rw [List.lookup_cons, List.filter_cons]
    by_cases hkey : name = k
    · subst hkey
      rw [if_pos (hname v), List.lookup_cons, beq_self_eq_true]
    · have hkey' : (name == k) = false := by simpa using hkey
      split
      · rw [List.lookup_cons, hkey', ih]
      · rw [hkey', ih]

/-- The value of a key among sorted members, from the start. -/
theorem lookup_eq {ms : List (String × Json)} (h : Sorted ms) (key : String) :
    ms.lookup key = lookup? key ms := by
  induction ms with
  | nil => rfl
  | cons m ms ih =>
    obtain ⟨k, v⟩ := m
    rw [List.lookup_cons]
    by_cases hkey : key = k
    · subst hkey
      rw [beq_self_eq_true, (lookup_sorted h).2 List.mem_cons_self]
    · have hkey' : (key == k) = false := by simpa using hkey
      have hkey'' : (k == key) = false := by simpa using fun h => hkey h.symm
      rw [hkey', ih h.tail, lookup_cons, hkey'']
      simp

/-- A name stands for at most one of sorted members. -/
theorem length_filter_le {ms : List (String × Json)} (h : Sorted ms) (name : String) :
    (ms.filter (·.1 == name)).length ≤ 1 := by
  have hsorted : Sorted (ms.filter (·.1 == name)) := List.Pairwise.filter _ h
  have hkeys : ∀ m ∈ ms.filter (·.1 == name), m.1 = name := by
    intro m hm
    simpa using (List.mem_filter.1 hm).2
  generalize ms.filter (·.1 == name) = found at hsorted hkeys
  match found with
  | [] => exact Nat.zero_le _
  | [m] => exact Nat.le_refl _
  | (k, v) :: (k', v') :: rest =>
    have hlt : k < k' := hsorted.head List.mem_cons_self
    have hk : k = name := hkeys _ List.mem_cons_self
    have hk' : k' = name := hkeys _ (List.mem_cons_of_mem _ List.mem_cons_self)
    rw [hk, hk'] at hlt
    exact absurd hlt (String.lt_irrefl name)

/-- **An object in normal form is a record**, with the values of its fields in normal form. -/
theorem record_normal (names : List String) (mayEndEarly : Bool) (ms : List (String × Json)) :
    ∃ fields, (Json.object ms).normal.record? names mayEndEarly = some fields ∧
      ∀ name ∈ names, fields.lookup name = ((Json.object ms).get? name).map normal := by
  obtain ⟨hsorted, -⟩ := mem_sortMembers (normalMembers ms)
  have hknown : Sorted ((sortMembers (normalMembers ms)).filter fun m => names.contains m.1) :=
    List.Pairwise.filter _ hsorted
  refine ⟨(sortMembers (normalMembers ms)).filter fun m => names.contains m.1, ?_,
    fun name hname => ?_⟩
  · have hall : (names.all fun n => decide ((((sortMembers (normalMembers ms)).filter
        fun m => names.contains m.1).filter (·.1 == n)).length ≤ 1)) = true :=
      List.all_eq_true.2 fun name _ => decide_eq_true (length_filter_le hknown name)
    simp only [normal, record?, hall, if_true]
  · have hkeep : ∀ v : Json, names.contains (name, v).1 = true :=
      fun _ => List.contains_iff_mem.2 hname
    rw [lookup_filter hkeep, lookup_eq hsorted, lookup_sortMembers, lookup_normalMembers]
    rfl

/-! ## Numbers -/

theorem asNat_natural (n : Nat) : asNat? (.integer n) = some n := by
  have hn : (0 : Int) ≤ n := Int.natCast_nonneg n
  rw [asNat?, if_pos hn, Int.toNat_natCast]

end DeadSymbols.Json
