import DeadSymbols.Proofs.Frames
import DeadSymbols.Wire.Arrival

/-!
# Chunks make no difference

* `Reader.feed_append`: bytes give the same items at once and in two chunks.
* `items_arrivalsFrom_close`: the items of chunks are those of their bytes.
* `Sends.items`: whole frames, cut into chunks in any way, give their messages.
-/

namespace DeadSymbols

namespace Reader

/-- The items that some bytes complete, and the reader after them. -/
def drained (bytes : List UInt8) : List Item × Reader := drain (bytes.length + 1) bytes

/-- Fuel for each byte and one more step is enough. -/
theorem drain_fuel {fuel fuel' : Nat} {bytes : List UInt8} (h : bytes.length < fuel)
    (h' : bytes.length < fuel') : drain fuel bytes = drain fuel' bytes := by
  induction fuel generalizing fuel' bytes with
  | zero => exact absurd h (Nat.not_lt_zero _)
  | succ fuel ih =>
    obtain ⟨fuel', rfl⟩ : ∃ f, fuel' = f + 1 := Nat.exists_eq_add_one.2 (by omega)
    rw [drain, drain]
    cases hnext : Frame.next? bytes with
    | none => rfl
    | some p =>
      obtain ⟨item, rest⟩ := p
      have hlt := Frame.length_next hnext
      have hrest : drain fuel rest = drain fuel' rest := ih (by omega) (by omega)
      cases item with
      | message v => simp only [hrest]
      | fault cause => rfl
      | finish => rfl

theorem drained_none {bytes : List UInt8} (h : Frame.next? bytes = none) :
    drained bytes = ([], ⟨some bytes⟩) := by
  rw [drained, drain, h]

theorem drained_message {bytes rest : List UInt8} {v : Json}
    (h : Frame.next? bytes = some (.message v, rest)) :
    drained bytes = (.message v :: (drained rest).1, (drained rest).2) := by
  have hlt := Frame.length_next h
  have hrest : drain bytes.length rest = drained rest := drain_fuel hlt (Nat.lt_succ_self _)
  rw [drained, drain, h]
  simp only [hrest]

theorem drained_last {bytes rest : List UInt8} {item : Item}
    (h : Frame.next? bytes = some (item, rest)) (hitem : ∀ v, item ≠ .message v) :
    drained bytes = (last item, ⟨none⟩) := by
  rw [drained, drain, h]
  cases item with
  | message v => exact absurd rfl (hitem v)
  | fault cause => rfl
  | finish => rfl

theorem feed_eq (pending bytes : List UInt8) :
    (Reader.mk (some pending)).feed bytes = drained (pending ++ bytes) := rfl

theorem feed_stopped (bytes : List UInt8) : (Reader.mk none).feed bytes = ([], ⟨none⟩) := rfl

/-- Bytes after those that were drained go on where these ended. -/
theorem drained_append (bytes more : List UInt8) :
    drained (bytes ++ more) =
      ((drained bytes).1 ++ ((drained bytes).2.feed more).1, ((drained bytes).2.feed more).2) := by
  -- each message leaves fewer bytes
  induction hn : bytes.length using Nat.strongRecOn generalizing bytes with
  | ind n ih =>
    subst hn
    cases hnext : Frame.next? bytes with
    | none => rw [drained_none hnext, feed_eq, List.nil_append]
    | some p =>
      obtain ⟨item, rest⟩ := p
      have hmore := Frame.next_append hnext more
      by_cases hitem : ∃ v, item = .message v
      · obtain ⟨v, rfl⟩ := hitem
        rw [drained_message hnext, drained_message hmore,
          ih rest.length (Frame.length_next hnext) rest rfl]
        rfl
      · have hother : ∀ v, item ≠ .message v := fun v hv => hitem ⟨v, hv⟩
        rw [drained_last hnext hother, drained_last hmore hother, feed_stopped, List.append_nil]

/-- **Bytes give the same items at once and in two chunks.** -/
theorem feed_append (reader : Reader) (bytes more : List UInt8) :
    reader.feed (bytes ++ more) =
      ((reader.feed bytes).1 ++ ((reader.feed bytes).2.feed more).1,
        ((reader.feed bytes).2.feed more).2) := by
  obtain ⟨_ | pending⟩ := reader
  · rfl
  · rw [feed_eq, ← List.append_assoc, drained_append, feed_eq]

/-- A reader that has taken all items there are. -/
def Waits (reader : Reader) : Prop := ∀ pending, reader.pending = some pending →
  Frame.next? pending = none

theorem waits_drained (bytes : List UInt8) : (drained bytes).2.Waits := by
  induction hn : bytes.length using Nat.strongRecOn generalizing bytes with
  | ind n ih =>
    subst hn
    cases hnext : Frame.next? bytes with
    | none =>
      rw [drained_none hnext]
      intro pending h
      cases h
      exact hnext
    | some p =>
      obtain ⟨item, rest⟩ := p
      by_cases hitem : ∃ v, item = .message v
      · obtain ⟨v, rfl⟩ := hitem
        rw [drained_message hnext]
        exact ih rest.length (Frame.length_next hnext) rest rfl
      · rw [drained_last hnext fun v hv => hitem ⟨v, hv⟩]
        intro pending h
        cases h

theorem waits_feed {reader : Reader} (h : reader.Waits) (bytes : List UInt8) :
    (reader.feed bytes).2.Waits := by
  obtain ⟨_ | pending⟩ := reader
  · exact h
  · exact waits_drained _

theorem feed_nil {reader : Reader} (h : reader.Waits) : reader.feed [] = ([], reader) := by
  obtain ⟨_ | pending⟩ := reader
  · rfl
  · rw [feed_eq, List.append_nil, drained_none (h pending rfl)]

end Reader

/-- **The items of chunks are those of their bytes**, and those that the ending adds. -/
theorem items_arrivalsFrom_close (ending : Ending) (reader : Reader) (h : reader.Waits)
    (time : Nat) (chunks : List Chunk) :
    (arrivalsFrom ending reader time chunks).map Arrival.item =
      (reader.feed (chunks.flatMap Chunk.bytes)).1 ++
        (reader.feed (chunks.flatMap Chunk.bytes)).2.close ending := by
  induction chunks generalizing reader time with
  | nil =>
    rw [List.flatMap_nil, Reader.feed_nil h, arrivalsFrom]
    simp [Function.comp_def]
  | cons chunk rest ih =>
    have hrest := ih (reader.feed chunk.bytes).2 (Reader.waits_feed h _) (max time chunk.time)
    rw [List.flatMap_cons, Reader.feed_append, List.append_assoc, ← hrest, arrivalsFrom]
    simp [Function.comp_def]

/-- The items of chunks, if nothing follows the chunks. -/
theorem items_arrivalsFrom (reader : Reader) (h : reader.Waits) (time : Nat) (chunks : List Chunk) :
    (arrivalsFrom .silent reader time chunks).map Arrival.item =
      (reader.feed (chunks.flatMap Chunk.bytes)).1 := by
  have hclose : ∀ r : Reader, r.close .silent = [] := by
    rintro ⟨_ | pending⟩ <;> rfl
  rw [items_arrivalsFrom_close .silent reader h, hclose, List.append_nil]

/-- Bytes that are the frame of a message. -/
def Frame.Holds (frame : List UInt8) (message : Json) : Prop :=
  Frame.next? frame = some (.message message, [])

theorem Frame.Writes.holds {frame : List UInt8} {message : Json} (h : Writes frame message)
    (hnesting : message.nesting ≤ Json.maxDepth) : Holds frame message.normal := by
  have hnext := next_of_writes h hnesting []
  rwa [List.append_nil] at hnext

/-- Whole frames are drained to their messages, and what is left after them as it is without them. -/
theorem Reader.drained_frames (frames : List (List UInt8 × Json))
    (h : ∀ frame ∈ frames, Frame.Holds frame.1 frame.2) (left : List UInt8) :
    drained (frames.flatMap Prod.fst ++ left) =
      (frames.map (fun frame => .message frame.2) ++ (drained left).1, (drained left).2) := by
  induction frames with
  | nil => rfl
  | cons frame rest ih =>
    have hframe := Frame.next_append (h frame List.mem_cons_self) (rest.flatMap Prod.fst ++ left)
    rw [List.flatMap_cons, List.append_assoc, drained_message hframe, List.nil_append,
      ih fun f hf => h f (List.mem_cons_of_mem _ hf)]
    rfl

/-- Some arrivals are what chunks bring, cut in any way, that complete the frame of which `begun`
was there and hold whole frames; `left` is what they begin in turn. -/
def Sends (begun : List UInt8) (arrivals : List Arrival) (frames : List (List UInt8 × Json))
    (left : List UInt8) : Prop :=
  ∃ time chunks, arrivals = arrivalsFrom .silent ⟨some begun⟩ time chunks ∧
    begun ++ chunks.flatMap Chunk.bytes = frames.flatMap Prod.fst ++ left ∧
    Frame.next? left = none

/-- **Whole frames, cut into chunks in any way, give their messages.** -/
theorem Sends.items {begun left : List UInt8} {arrivals : List Arrival}
    {frames : List (List UInt8 × Json)} (hsends : Sends begun arrivals frames left)
    (hbegun : Frame.next? begun = none) (h : ∀ frame ∈ frames, Frame.Holds frame.1 frame.2) :
    arrivals.map Arrival.item = frames.map fun frame => .message frame.2 := by
  obtain ⟨time, chunks, rfl, hbytes, hleft⟩ := hsends
  have hwaits : (Reader.mk (some begun)).Waits := by
    intro pending hpending
    cases hpending
    exact hbegun
  rw [items_arrivalsFrom _ hwaits, Reader.feed_eq, hbytes, Reader.drained_frames frames h,
    Reader.drained_none hleft, List.append_nil]

end DeadSymbols
