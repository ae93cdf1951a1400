import DeadSymbols.Proofs.Compact

/-!
# The indented form is a text

What is written in indented form is a text of the value too: the line feeds and the indentation are
white space between its parts. So it is read back like the compact form.

* `Json.areBlank_newline`: a line feed and an indentation are white space.
* `Json.hasText_pretty`: the indented form of a value is one of its texts.
* `Json.ofBytes_pretty`: its bytes are read back, up to the order of members.
-/

namespace DeadSymbols

namespace Json

theorem areBlank_newline (level : Nat) : AreBlank (newline level) := by
  intro c hc
  rcases List.mem_cons.1 hc with rfl | hspace
  · rfl
  · have hc' : c = ' ' := List.eq_of_mem_replicate hspace
    rw [hc']
    rfl

/-! ## Values -/

mutual

/-- The indented form of a value is one of its texts, on whatever level it starts. -/
theorem spells_prettyChars : ∀ (v : Json) (level : Nat), v.IsWhole → v.Spells (v.prettyChars level)
  | .null, _, _ => rfl
  | .bool true, _, _ => rfl
  | .bool false, _, _ => rfl
  | .integer _, _, h => ⟨h, rfl⟩
  | .real _, _, h => absurd h id
  | .text s, _, _ => spellsString_quoted s
  | .array [], _, _ => ⟨_, rfl, [], rfl, .nil⟩
  | .array (v :: vs), level, h => by
    obtain ⟨after, next, hnext, hafter, hspelled⟩ := spells_prettyElements vs level h.2
    refine ⟨_, rfl, newline (level + 1), v.prettyChars (level + 1), after, next, ?_,
      areBlank_newline _, spells_prettyChars v (level + 1) h.1, hafter, hspelled⟩
    rw [hnext, List.append_assoc]
  | .object [], _, _ => ⟨_, rfl, [], rfl, .nil⟩
  | .object (m :: ms), level, h => by
    obtain ⟨after, next, hnext, hafter, hspelled⟩ := spells_prettyMembers ms level h.2
    refine ⟨_, rfl, newline (level + 1), prettyPair (level + 1) m, after, next, ?_,
      areBlank_newline _, spells_prettyPair m (level + 1) h.1, hafter, hspelled⟩
    rw [hnext, List.append_assoc]
termination_by structural v => v

/-- White space comes before the closing bracket, and none before a comma. -/
theorem spells_prettyElements : ∀ (vs : List Json) (level : Nat), AreWhole vs →
    ∃ after next, prettyElements level vs = after ++ next ∧ AreBlank after ∧
      SpellsNextElements vs next
  | [], level, _ => ⟨newline level, [']'], rfl, areBlank_newline level, rfl⟩
  | v :: vs, level, h => by
    obtain ⟨after, next, hnext, hafter, hspelled⟩ := spells_prettyElements vs level h.2
    refine ⟨[], _, rfl, .nil, newline (level + 1), v.prettyChars (level + 1), after, next, ?_,
      areBlank_newline _, spells_prettyChars v (level + 1) h.1, hafter, hspelled⟩
    rw [hnext, List.append_assoc]
termination_by structural vs => vs

theorem spells_prettyPair : ∀ (m : String × Json) (level : Nat), MemberIsWhole m →
    SpellsMember m (prettyPair level m)
  | (k, v), level, h => by
    have hblank : AreBlank [' '] := by
      intro c hc
      rw [List.mem_singleton.1 hc]
      rfl
    exact ⟨quoted k, [], [' '], v.prettyChars level, rfl, spellsString_quoted k, .nil, hblank,
      spells_prettyChars v level h⟩
termination_by structural m => m

/-- White space comes before the closing brace, and none before a comma. -/
theorem spells_prettyMembers : ∀ (ms : List (String × Json)) (level : Nat), MembersAreWhole ms →
    ∃ after next, prettyMembers level ms = after ++ next ∧ AreBlank after ∧
      SpellsNextMembers ms next
  | [], level, _ => ⟨newline level, ['\x7d'], rfl, areBlank_newline level, rfl⟩
  | m :: ms, level, h => by
    obtain ⟨after, next, hnext, hafter, hspelled⟩ := spells_prettyMembers ms level h.2
    refine ⟨[], _, rfl, .nil, newline (level + 1), prettyPair (level + 1) m, after, next, ?_,
      areBlank_newline _, spells_prettyPair m (level + 1) h.1, hafter, hspelled⟩
    rw [hnext, List.append_assoc]
termination_by structural ms => ms

end

/-- **The indented form is a text** of a value whose numbers are whole numbers of 64 bits. -/
theorem hasText_pretty {v : Json} (h : v.IsWhole) : v.HasText v.pretty := by
  refine ⟨[], v.prettyChars 0, [], ?_, .nil, spells_prettyChars v 0 h, .nil⟩
  rw [pretty, String.toList_ofList, List.nil_append, List.append_nil]

/-- **A value is read back** from the bytes of its indented form, if it is not nested too deep. -/
theorem ofBytes_pretty {v : Json} (h : v.IsWhole) (hdepth : v.nesting ≤ maxDepth) :
    ofBytes? (Text.encode v.pretty) = some v.normal :=
  ofBytes_text (hasText_pretty h) hdepth

end Json

end DeadSymbols
