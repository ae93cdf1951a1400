import DeadSymbols.Proofs.Frames

/-!
# Frames end where they end

Whatever the header of a frame looks like, its message is read and not one byte more.

* `Frame.Framed`: a message in a frame, with a header of any kind.
* `Frame.readMany_framed`: frames one after another are read to their messages, and the bytes after
  the last one are left.
-/

namespace DeadSymbols.Frame

/-- A message that fits in a frame. No key of an object is repeated and the keys are sorted, all
numbers are whole numbers of 64 bits, and neither the nesting nor the text is above its limit. -/
structure Fits (message : Json) : Prop where
  normal : message.normal = message
  whole : message.IsWhole
  nesting : message.nesting ≤ Json.maxDepth
  length : (Text.encode message.compact).length ≤ maxLength

/-- A message in a frame: a header of any kind that gives the length of the body, and the compact
text of the message as the body. -/
structure Framed where
  message : Json
  fits : Fits message
  heading : Heading (Text.encode message.compact).length

/-- The bytes of a frame. -/
def Framed.bytes (frame : Framed) : List UInt8 :=
  frame.heading.bytes ++ Text.encode frame.message.compact

/-- The bytes that several reads, one after another, leave of a stream. -/
def restMany : Nat → List UInt8 → List UInt8
  | 0, bytes => bytes
  | n + 1, bytes => restMany n (read bytes).2

/-- **A frame is read** to its message, and what follows it is left. -/
theorem Framed.next (frame : Framed) (rest : List UInt8) :
    next? (frame.bytes ++ rest) = some (.message frame.message, rest) := by
  have hwrites : Writes frame.bytes frame.message :=
    ⟨frame.heading.bytes, frame.message.compact, rfl, frame.heading.announces, frame.fits.length,
      Json.hasText_compact frame.fits.whole⟩
  have hnext := next_of_writes hwrites frame.fits.nesting rest
  -- a text is read to the normal form of its value, which the message is already
  rwa [frame.fits.normal] at hnext

/-- The same for the frame that is written. -/
theorem Fits.next {message : Json} (h : Fits message) (rest : List UInt8) :
    next? (bytes message ++ rest) = some (.message message, rest) := by
  have hnext := next_of_writes (writes_bytes h.whole h.length) h.nesting rest
  rwa [h.normal] at hnext

section Many

variable {α : Type} {frame : α → List UInt8} {message : α → Json} {xs : List α}

/-- Frames of which each is read to its message are read one after another. -/
theorem readMany_append
    (h : ∀ x ∈ xs, ∀ rest, next? (frame x ++ rest) = some (.message (message x), rest))
    (reads : Nat) (suffix : List UInt8) :
    readMany (xs.length + reads) (xs.flatMap frame ++ suffix) =
      xs.map (fun x => .message (message x)) ++ readMany reads suffix := by
  induction xs with
  | nil => simp
  | cons x xs ih =>
    obtain ⟨hx, hxs⟩ := List.forall_mem_cons.1 h
    -- to the first frame, the others and the suffix are what follows it
    have hread := read_of_next (hx (xs.flatMap frame ++ suffix))
    rw [List.flatMap_cons, List.append_assoc, List.length_cons, Nat.add_right_comm, readMany, hread]
    exact congrArg (Item.message (message x) :: ·) (ih hxs)

theorem restMany_append
    (h : ∀ x ∈ xs, ∀ rest, next? (frame x ++ rest) = some (.message (message x), rest))
    (suffix : List UInt8) : restMany xs.length (xs.flatMap frame ++ suffix) = suffix := by
  induction xs with
  | nil => rfl
  | cons x xs ih =>
    obtain ⟨hx, hxs⟩ := List.forall_mem_cons.1 h
    have hread := read_of_next (hx (xs.flatMap frame ++ suffix))
    rw [List.flatMap_cons, List.append_assoc, List.length_cons, restMany, hread]
    exact ih hxs

end Many

/-- **Frames end where they end.** Let messages be framed one after another, each with its compact
text as the body and any header that is admitted: with blank lines first, with any other lines, with
the name of the field in any letter case, with white space around name and value, with lines that
end in a line feed or in a carriage return and a line feed, and with other lengths before the one
that counts. Then the messages are read in order, and the bytes after the last frame are left,
whatever they are. In particular the frames that are written are read back, and after them the
stream is at its end. -/
theorem readMany_framed (frames : List Framed) (suffix : List UInt8) :
    readMany frames.length (frames.flatMap Framed.bytes ++ suffix) =
        frames.map (fun frame => .message frame.message) ∧
      restMany frames.length (frames.flatMap Framed.bytes ++ suffix) = suffix ∧
      ∀ messages : List Json, (∀ message ∈ messages, Fits message) →
        readMany (messages.length + 1) (messages.flatMap bytes) =
          messages.map Item.message ++ [.finish] := by
  have hframes : ∀ frame ∈ frames, ∀ rest,
      next? (frame.bytes ++ rest) = some (.message frame.message, rest) :=
    fun frame _ => frame.next
  refine ⟨?_, restMany_append hframes suffix, ?_⟩
  · have hread := readMany_append hframes 0 suffix
    rwa [readMany, List.append_nil] at hread
  · intro messages hfits
    have hread := readMany_append (fun message hm => (hfits message hm).next) 1 []
    rw [List.append_nil] at hread
    exact hread

/-- A message with a character of two bytes and a line break. -/
def sampleMessage : Json := .object [("k", .text "é\n")]

theorem fits_sampleMessage : Fits sampleMessage where
  normal := rfl
  whole := ⟨trivial, trivial⟩
  nesting := by decide
  length := by decide +kernel

/-- The message with a header that is written in an odd way. -/
def sampleFrame : Framed where
  message := sampleMessage
  fits := fits_sampleMessage
  heading :=
    { first := ["", "Content-Length", "X-é: 1\r"]
      earlier := ["content-length: 7\r"]
      given := "\tCONTENT-length : +12 \r"
      later := ["Content-Length: many"]
      blank := " \r"
      first_lines := by
        intro line hline
        simp only [List.mem_cons, List.not_mem_nil, or_false] at hline
        rcases hline with rfl | rfl | rfl <;>
          exact ⟨by decide +kernel, givesLength_of_none (by decide +kernel)⟩
      earlier_lines := by
        intro line hline
        rw [List.mem_singleton.1 hline]
        exact ⟨by decide +kernel, by decide +kernel⟩
      given_line := ⟨by decide +kernel, lengthOf_trim.1 (by decide +kernel)⟩
      later_lines := by
        intro line hline
        rw [List.mem_singleton.1 hline]
        exact ⟨by decide +kernel, by decide +kernel, givesLength_of_none (by decide +kernel)⟩
      blank_line := ⟨by decide +kernel, by decide +kernel⟩ }

/-- The odd frame is read twice, and three bytes are left; what is written is read back. -/
theorem readMany_framed_sample :
    readMany 2 (sampleFrame.bytes ++ sampleFrame.bytes ++ [1, 2, 3]) =
        [.message sampleMessage, .message sampleMessage] ∧
      restMany 2 (sampleFrame.bytes ++ sampleFrame.bytes ++ [1, 2, 3]) = [1, 2, 3] ∧
      readMany 2 (bytes sampleMessage) = [.message sampleMessage, .finish] := by
  obtain ⟨hread, hrest, hwritten⟩ := readMany_framed [sampleFrame, sampleFrame] [1, 2, 3]
  have hbytes : [sampleFrame, sampleFrame].flatMap Framed.bytes =
      sampleFrame.bytes ++ sampleFrame.bytes := by
    simp
  rw [hbytes] at hread hrest
  have hone := hwritten [sampleMessage] fun message hm =>
    List.mem_singleton.1 hm ▸ fits_sampleMessage
  rw [List.flatMap_singleton] at hone
  exact ⟨hread, hrest, hone⟩

end DeadSymbols.Frame
