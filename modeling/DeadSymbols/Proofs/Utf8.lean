import DeadSymbols.Text.Utf8

/-!
# Texts as bytes

* `Text.decode_encode`: a text is read back from its bytes.
* `Text.encode_append`: texts are encoded one character after another.
* `Text.not_mem_encode`: a line feed is in the bytes only if it is in the text.
* `Text.encode_lt_encode`: the order of texts is that of their bytes.
-/

namespace DeadSymbols.Text

/-- The bytes of a text are those of its characters. -/
theorem encode_eq (s : String) : encode s = s.toList.flatMap String.utf8EncodeChar := by
  have hbytes : s.toUTF8 = s.toList.utf8Encode := String.utf8Encode_toList.symm
  rw [encode, hbytes, List.utf8Encode]
  simp

theorem encode_append (s t : String) : encode (s ++ t) = encode s ++ encode t := by
  rw [encode_eq, encode_eq, encode_eq, String.toList_append, List.flatMap_append]

/-- A character takes at most four bytes. -/
theorem length_encode_le (s : String) : (encode s).length ≤ 4 * s.toList.length := by
  rw [encode_eq]
  induction s.toList with
  | nil => exact Nat.le_refl 0
  | cons c cs ih =>
    have hc : (String.utf8EncodeChar c).length ≤ 4 := by
      rw [String.length_utf8EncodeChar]
      exact Char.utf8Size_le_four c
    rw [List.flatMap_cons, List.length_append, List.length_cons]
    omega

/-- **A text is read back from its bytes.** -/
theorem decode_encode (s : String) : decode (encode s) = .ok s := by
  have hbytes : (⟨(encode s).toArray⟩ : ByteArray) = s.toUTF8 := by simp [encode]
  have hvalid : String.fromUTF8? s.toUTF8 = some s := by
    rw [String.fromUTF8?, dif_pos (show s.toUTF8.IsValidUTF8 from s.isValidUTF8)]
    rfl
  rw [decode, hbytes, hvalid]

/-- A byte of the basic range stands for a character of that range. -/
theorem eq_of_mem_utf8EncodeChar {c : Char} {b : UInt8} (hb : b < 0x80)
    (h : b ∈ String.utf8EncodeChar c) : c.toNat = b.toNat := by
  have hlow : b.toNat < 128 := hb
  unfold String.utf8EncodeChar at h
  simp only [] at h
  split at h
  · rename_i hv
    rw [List.mem_singleton.1 h, UInt8.toNat_ofNat']
    have hv' : c.toNat ≤ 127 := hv
    show c.toNat = c.toNat % 256
    omega
  · exfalso
    split at h
    · simp only [List.mem_cons, List.not_mem_nil, or_false] at h
      rcases h with rfl | rfl <;> rw [UInt8.toNat_ofNat'] at hlow <;> omega
    · split at h
      · simp only [List.mem_cons, List.not_mem_nil, or_false] at h
        rcases h with rfl | rfl | rfl <;> rw [UInt8.toNat_ofNat'] at hlow <;> omega
      · simp only [List.mem_cons, List.not_mem_nil, or_false] at h
        rcases h with rfl | rfl | rfl | rfl <;> rw [UInt8.toNat_ofNat'] at hlow <;> omega

/-- A line feed is in the bytes only if it is in the text. -/
theorem not_mem_encode {s : String} (h : '\n' ∉ s.toList) : 10 ∉ encode s := by
  rw [encode_eq, List.mem_flatMap]
  rintro ⟨c, hc, hb⟩
  have hten : c.toNat = 10 := eq_of_mem_utf8EncodeChar (by decide) hb
  have hfeed : c = '\n' := by rw [← Char.ofNat_toNat c, hten]
  exact h (hfeed ▸ hc)

/-! ## Order -/

theorem cons_ofNat_lt {m n : Nat} (hm : m < 256) (hn : n < 256) (xs ys : List UInt8) :
    UInt8.ofNat m :: xs < UInt8.ofNat n :: ys ↔ m < n ∨ m = n ∧ xs < ys := by
  rw [List.cons_lt_cons_iff, UInt8.lt_iff_toNat_lt, ← UInt8.toNat_inj, UInt8.toNat_ofNat',
    UInt8.toNat_ofNat', Nat.mod_eq_of_lt hm, Nat.mod_eq_of_lt hn]

/-- The bytes of a character come before those of a later one, whatever follows them. -/
theorem utf8EncodeChar_append_lt {c d : Char} (h : c < d) (xs ys : List UInt8) :
    String.utf8EncodeChar c ++ xs < String.utf8EncodeChar d ++ ys := by
  have hlt : c.val.toNat < d.val.toNat := h
  have hmax : d.val.toNat < 0x110000 := by
    rcases d.valid with hlow | hhigh
    · exact Nat.lt_trans hlow (by decide)
    · exact hhigh.2
  unfold String.utf8EncodeChar
  simp only []
  generalize c.val.toNat = m at *
  generalize d.val.toNat = n at *
  have hdigits : ∀ k < 0x110000, k / 64 / 64 = k / 4096 ∧ k / 4096 / 64 = k / 262144 ∧
      k / 262144 % 8 = k / 262144 := fun k hk =>
    ⟨Nat.div_div_eq_div_mul k 64 64, Nat.div_div_eq_div_mul k 4096 64, by omega⟩
  have hm := hdigits m (by omega)
  have hn := hdigits n hmax
  -- a longer form has a greater first byte; in forms of one length the digits are compared
  repeat' split
  all_goals
    simp (disch := omega) only [List.cons_append, List.nil_append, cons_ofNat_lt]
    omega

/-- **Bytes are ordered like texts.** -/
theorem encode_lt_encode {s t : String} (h : s < t) : encode s < encode t := by
  rw [String.lt_iff] at h
  rw [encode_eq, encode_eq]
  generalize s.toList = cs at h ⊢
  generalize t.toList = ds at h ⊢
  induction h with
  | @nil d ds =>
    rw [List.flatMap_cons]
    obtain ⟨b, bs, hbytes⟩ := List.exists_cons_of_ne_nil (String.utf8EncodeChar_ne_nil (c := d))
    rw [hbytes]
    exact List.nil_lt_cons _ _
  | rel hlt =>
    rw [List.flatMap_cons, List.flatMap_cons]
    exact utf8EncodeChar_append_lt hlt _ _
  | cons _ ih =>
    rw [List.flatMap_cons, List.flatMap_cons]
    exact List.append_left_lt ih

end DeadSymbols.Text
