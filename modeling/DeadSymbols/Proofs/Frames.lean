import DeadSymbols.Proofs.Compact
import DeadSymbols.Proofs.Headers

/-!
# Frames are read back

* `Frame.next_of_writes`: a frame is read to its message, whatever follows it.
* `Frame.writes_bytes`: the frame that is written is a frame of its message.
* `Frame.next_append`: more bytes never change an item that is complete.
* `Frame.read_of_next`: the end of the stream does not change it either.
-/

namespace DeadSymbols

namespace Frame

/-! ## Frames -/

/-- The frames of a message: a header that announces the length of the body, and a body that is a
text of the message and not above the limit. -/
def Writes (frame : List UInt8) (message : Json) : Prop :=
  ∃ header text, frame = header ++ Text.encode text ∧
    Announces header (Text.encode text).length ∧ (Text.encode text).length ≤ maxLength ∧
    message.HasText text

/-- A body is read to the message, whatever follows it. -/
theorem readBody_text (ended : Bool) {message : Json} {text : String} (h : message.HasText text)
    (hnesting : message.nesting ≤ Json.maxDepth)
    (hlength : (Text.encode text).length ≤ maxLength) (rest : List UInt8) :
    readBody ended (Text.encode text).length (Text.encode text ++ rest) =
      some (.message message.normal, rest) := by
  have hshort : ¬ maxLength < (Text.encode text).length := Nat.not_lt.2 hlength
  have henough : ¬ (Text.encode text ++ rest).length < (Text.encode text).length := by
    rw [List.length_append]
    omega
  rw [readBody, if_neg hshort, if_neg henough, List.take_left' rfl, List.drop_left' rfl,
    Json.ofBytes_text h hnesting]

/-- **A frame is read** to its message, whatever follows it. -/
theorem next_of_writes {frame : List UInt8} {message : Json} (h : Writes frame message)
    (hnesting : message.nesting ≤ Json.maxDepth) (rest : List UInt8) :
    next? (frame ++ rest) = some (.message message.normal, rest) := by
  obtain ⟨header, text, rfl, hheader, hlength, htext⟩ := h
  rw [next?, List.append_assoc, hheader, readBody_text false htext hnesting hlength]

/-- The frame that is written is one of the frames of its message. -/
theorem writes_bytes {message : Json} (h : message.IsWhole)
    (hlength : (Text.encode message.compact).length ≤ maxLength) :
    Writes (bytes message) message := by
  have hmax : maxLength ≤ Text.maxUInt64 := by decide
  exact ⟨_, message.compact, rfl, announces_header (Nat.le_trans hlength hmax), hlength,
    Json.hasText_compact h⟩

/-! ## More bytes -/

theorem readBody_append {length : Nat} {bytes rest : List UInt8} {item : Item}
    (h : readBody false length bytes = some (item, rest)) (more : List UInt8) :
    readBody false length (bytes ++ more) = some (item, rest ++ more) := by
  unfold readBody at h ⊢
  split
  · rename_i hlong
    rw [if_pos hlong] at h
    cases h
    rfl
  · rename_i hlong
    rw [if_neg hlong] at h
    split at h
    · cases h
    · rename_i henough
      -- a body that is complete does not change
      have henough' : ¬ (bytes ++ more).length < length := by
        rw [List.length_append]
        omega
      have htake : (bytes ++ more).take length = bytes.take length :=
        List.take_append_of_le_length (Nat.not_lt.1 henough)
      have hdrop : (bytes ++ more).drop length = bytes.drop length ++ more :=
        List.drop_append_of_le_length (Nat.not_lt.1 henough)
      rw [if_neg henough', htake, hdrop]
      split at h <;> cases h <;> rfl

theorem readFrom_append {length : Option Nat} {line bytes rest : List UInt8} {item : Item}
    (h : readFrom false length line bytes = some (item, rest)) (more : List UInt8) :
    readFrom false length line (bytes ++ more) = some (item, rest ++ more) := by
  induction bytes generalizing length line with
  | nil => cases h
  | cons b bytes ih =>
    rw [List.cons_append]
    rw [readFrom] at h ⊢
    split
    · rename_i hfeed
      rw [if_pos hfeed] at h
      split at h
      · exact ih h
      · exact readBody_append h more
      · cases h; rfl
    · rename_i hfeed
      rw [if_neg hfeed] at h
      exact ih h

/-- **More bytes never change an item that is complete.** -/
theorem next_append {bytes rest : List UInt8} {item : Item} (h : next? bytes = some (item, rest))
    (more : List UInt8) : next? (bytes ++ more) = some (item, rest ++ more) :=
  readFrom_append h more

theorem length_readBody {length : Nat} {bytes rest : List UInt8} {item : Item}
    (h : readBody false length bytes = some (item, rest)) : rest.length ≤ bytes.length := by
  unfold readBody at h
  split at h
  · cases h
    exact Nat.le_refl _
  · split at h
    · cases h
    · split at h <;> cases h <;> rw [List.length_drop] <;> exact Nat.sub_le _ _

theorem length_readFrom {length : Option Nat} {line bytes rest : List UInt8} {item : Item}
    (h : readFrom false length line bytes = some (item, rest)) : rest.length < bytes.length := by
  induction bytes generalizing length line with
  | nil => cases h
  | cons b bytes ih =>
    rw [List.length_cons]
    rw [readFrom] at h
    split at h
    · split at h
      · exact Nat.lt_succ_of_lt (ih h)
      · exact Nat.lt_succ_of_le (length_readBody h)
      · cases h
        exact Nat.lt_succ_self _
    · exact Nat.lt_succ_of_lt (ih h)

/-- An item takes at least one byte. -/
theorem length_next {bytes rest : List UInt8} {item : Item} (h : next? bytes = some (item, rest)) :
    rest.length < bytes.length :=
  length_readFrom h

/-! ## The end of the stream -/

theorem readBody_ended {n : Nat} {bytes rest : List UInt8} {item : Item}
    (h : readBody false n bytes = some (item, rest)) :
    readBody true n bytes = some (item, rest) := by
  unfold readBody at h ⊢
  split
  · rename_i hlong
    rwa [if_pos hlong] at h
  · rename_i hlong
    rw [if_neg hlong] at h
    split at h
    · cases h
    · rename_i henough
      rw [if_neg henough]
      exact h

theorem readFrom_ended {length : Option Nat} {line bytes rest : List UInt8} {item : Item}
    (h : readFrom false length line bytes = some (item, rest)) :
    readFrom true length line bytes = some (item, rest) := by
  induction bytes generalizing length line with
  | nil => cases h
  | cons b bytes ih =>
    rw [readFrom] at h ⊢
    split
    · rename_i hfeed
      rw [if_pos hfeed] at h
      split at h
      · exact ih h
      · exact readBody_ended h
      · exact h
    · rename_i hfeed
      rw [if_neg hfeed] at h
      exact ih h

/-- **Where an item ends does not depend on what follows it**, not even on whether something does. -/
theorem read_of_next {bytes rest : List UInt8} {item : Item}
    (h : next? bytes = some (item, rest)) : read bytes = (item, rest) := by
  rw [read, readFrom_ended h]
  rfl

end Frame

end DeadSymbols
