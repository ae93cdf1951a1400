import DeadSymbols.Json.Printer
import DeadSymbols.Proofs.JsonText

/-!
# The compact form is a text

What is written in compact form is a text of the value.

* `Json.IsWhole`: values whose numbers are whole numbers of 64 bits.
* `Json.hasText_compact`: the compact form of such a value is one of its texts.
-/

namespace DeadSymbols

namespace Json

/-! ## Strings -/

/-- The digits in the escape of a control character. -/
theorem hexValue4_control : ∀ n < 32,
    hexValue4? '0' '0' (hexDigit (n / 16)) (hexDigit n) = some n := by decide

theorem eq_ofNat {c : Char} {n : Nat} (h : c.toNat = n) : c = Char.ofNat n := by
  rw [← h, Char.ofNat_toNat]

/-- What is written for a character is one of its texts. -/
theorem spellsChar_escapeChar (c : Char) : SpellsChar c (escapeChar c) := by
  unfold escapeChar
  split
  case h_1 hc => rw [eq_ofNat hc]; exact .letter _ _ rfl
  case h_2 hc => rw [eq_ofNat hc]; exact .letter _ _ rfl
  case h_3 hc => rw [eq_ofNat hc]; exact .letter _ _ rfl
  case h_4 hc => rw [eq_ofNat hc]; exact .letter _ _ rfl
  case h_5 hc => rw [eq_ofNat hc]; exact .letter _ _ rfl
  case h_6 hc => rw [eq_ofNat hc]; exact .letter _ _ rfl
  case h_7 hc => rw [eq_ofNat hc]; exact .letter _ _ rfl
  case h_8 hquote hslash _ _ _ _ _ =>
    -- a control character stands as its four digits, any other as itself
    by_cases hcontrol : c.toNat < 0x20
    · have hvalue := hexValue4_control c.toNat hcontrol
      have hdigits := SpellsChar.digits c.toNat _ _ _ _ hvalue (.inl (by omega))
      rw [Char.ofNat_toNat] at hdigits
      rw [if_pos hcontrol]
      exact hdigits
    · rw [if_neg hcontrol]
      refine .plain c ?_ ?_ (Nat.not_lt.1 hcontrol)
      · rintro rfl
        exact hquote rfl
      · rintro rfl
        exact hslash rfl

theorem spellsString_quoted (s : String) : SpellsString s (quoted s) := by
  refine ⟨s.toList.flatMap escapeChar, rfl, ?_⟩
  induction s.toList with
  | nil => rfl
  | cons c cs ih => exact ⟨escapeChar c, cs.flatMap escapeChar, rfl, spellsChar_escapeChar c, ih⟩

/-! ## Values -/

mutual

/-- Whether all numbers of a value are whole numbers of 64 bits. -/
def IsWhole : Json → Prop
  | .integer n => FitsInteger n
  | .real _ => False
  | .array vs => AreWhole vs
  | .object ms => MembersAreWhole ms
  | _ => True
termination_by structural v => v

/-- `IsWhole` of each element. -/
def AreWhole : List Json → Prop
  | [] => True
  | v :: rest => v.IsWhole ∧ AreWhole rest
termination_by structural vs => vs

/-- `IsWhole` of one member. -/
def MemberIsWhole : String × Json → Prop
  | (_, v) => v.IsWhole
termination_by structural m => m

/-- `IsWhole` of each member. -/
def MembersAreWhole : List (String × Json) → Prop
  | [] => True
  | m :: rest => MemberIsWhole m ∧ MembersAreWhole rest
termination_by structural ms => ms

end

mutual

/-- The compact form of a value is one of its texts. -/
theorem spells_chars : ∀ v : Json, v.IsWhole → v.Spells v.chars
  | .null, _ => rfl
  | .bool true, _ => rfl
  | .bool false, _ => rfl
  | .integer _, h => ⟨h, rfl⟩
  | .real _, h => absurd h id
  | .text s, _ => spellsString_quoted s
  | .array [], _ => ⟨_, rfl, [], rfl, .nil⟩
  | .array (v :: vs), h => ⟨_, rfl, [], v.chars, [], nextElementChars vs, rfl, .nil,
      spells_chars v h.1, .nil, spells_nextElementChars vs h.2⟩
  | .object [], _ => ⟨_, rfl, [], rfl, .nil⟩
  | .object (m :: ms), h => ⟨_, rfl, [], pairChars m, [], nextMemberChars ms, rfl, .nil,
      spells_pairChars m h.1, .nil, spells_nextMemberChars ms h.2⟩
termination_by structural v => v

theorem spells_nextElementChars : ∀ vs : List Json, AreWhole vs →
    SpellsNextElements vs (nextElementChars vs)
  | [], _ => rfl
  | v :: vs, h => ⟨[], v.chars, [], nextElementChars vs, rfl, .nil, spells_chars v h.1, .nil,
      spells_nextElementChars vs h.2⟩
termination_by structural vs => vs

theorem spells_pairChars : ∀ m : String × Json, MemberIsWhole m → SpellsMember m (pairChars m)
  | (k, v), h => ⟨quoted k, [], [], v.chars, rfl, spellsString_quoted k, .nil, .nil,
      spells_chars v h⟩
termination_by structural m => m

theorem spells_nextMemberChars : ∀ ms : List (String × Json), MembersAreWhole ms →
    SpellsNextMembers ms (nextMemberChars ms)
  | [], _ => rfl
  | m :: ms, h => ⟨[], pairChars m, [], nextMemberChars ms, rfl, .nil, spells_pairChars m h.1, .nil,
      spells_nextMemberChars ms h.2⟩
termination_by structural ms => ms

end

/-- **The compact form is a text** of a value whose numbers are whole numbers of 64 bits. -/
theorem hasText_compact {v : Json} (h : v.IsWhole) : v.HasText v.compact :=
  ⟨[], v.chars, [], by simp [compact], .nil, spells_chars v h, .nil⟩

end Json

end DeadSymbols
