import DeadSymbols.Proofs.Routing
import DeadSymbols.Proofs.Chunks

/-!
# Messages are consumed as they are sent

What a client consumes of the output of a server are the messages that are read from its bytes, in
order, however the bytes are cut into chunks and whatever the client gives up.

* `Frame.next_of_read`: every message that is read was complete before the stream ended.
* `Item.messages`: the messages of a stream, up to its end or its first fault.
* `arrivals_messages`: the arrivals of a stream are its messages.
* `Client.run_messages`: a run consumes the first of them and leaves the others.
-/

namespace DeadSymbols

namespace Frame

/-! ## The end of a stream -/

variable {length : Option Nat} {line bytes rest : List UInt8} {value : Json}

/-- A body is a message only if all its bytes are there. -/
theorem readBody_message {n : Nat} (h : readBody true n bytes = some (.message value, rest)) :
    readBody false n bytes = some (.message value, rest) := by
  unfold readBody at h ⊢
  split at h
  · cases h
  · rename_i hlong
    rw [if_neg hlong]
    split at h
    · cases h
    · rename_i henough
      rw [if_neg henough]
      exact h

theorem endOfHeader_ne_message (length : Option Nat) (value : Json) :
    endOfHeader length ≠ .message value := by
  unfold endOfHeader
  split <;> exact Item.noConfusion

/-- The end of the stream completes no message. -/
theorem readFrom_nil_ne_message (length : Option Nat) (line : List UInt8) :
    readFrom true length line [] ≠ some (.message value, rest) := by
  intro h
  rw [readFrom] at h
  simp only [Bool.not_true, Bool.false_eq_true, if_false] at h
  split at h
  · exact endOfHeader_ne_message _ _ (Prod.mk.inj (Option.some.inj h)).1
  · split at h
    · exact endOfHeader_ne_message _ _ (Prod.mk.inj (Option.some.inj h)).1
    -- a body without a byte is no text of a value
    · rename_i n _
      have hbody := readBody_message h
      unfold readBody at hbody
      split at hbody
      · cases hbody
      · split at hbody
        · cases hbody
        · have hempty : Json.ofBytes? [] = none := by decide +kernel
          rw [List.take_nil, hempty] at hbody
          cases hbody
    · cases h

theorem readFrom_message (h : readFrom true length line bytes = some (.message value, rest)) :
    readFrom false length line bytes = some (.message value, rest) := by
  induction bytes generalizing length line with
  | nil => exact absurd h (readFrom_nil_ne_message length line)
  | cons b bytes ih =>
    rw [readFrom] at h ⊢
    split
    · rename_i hfeed
      rw [if_pos hfeed] at h
      split at h
      · exact ih h
      · exact readBody_message h
      · exact h
    · rename_i hfeed
      rw [if_neg hfeed] at h
      exact ih h

/-- Every message that is read was complete before the stream ended. -/
theorem next_of_read (h : (read bytes).1 = .message value) : ∃ rest,
    next? bytes = some (.message value, rest) := by
  unfold read at h
  cases hread : readFrom true none [] bytes with
  | none =>
    rw [hread] at h
    cases h
  | some p =>
    obtain ⟨item, rest⟩ := p
    rw [hread] at h
    cases show item = .message value from h
    exact ⟨rest, readFrom_message hread⟩

end Frame

/-! ## The messages of a stream -/

namespace Item

/-- The message in an item. -/
def message? : Item → Option Json
  | .message value => some value
  | _ => none

/-- The messages of a stream, up to its end or its first fault. -/
def messages : List Item → List Json
  | .message value :: rest => value :: messages rest
  | _ => []

theorem messages_of_other {item : Item} (h : ∀ value, item ≠ .message value) (rest : List Item) :
    messages (item :: rest) = [] := by
  cases item with
  | message value => exact absurd rfl (h value)
  | fault cause => rfl
  | finish => rfl

end Item

namespace Reader

/-- The last items hold no message. -/
theorem filterMap_last {item : Item} (h : ∀ value, item ≠ .message value) :
    (last item).filterMap Item.message? = [] := by
  cases item with
  | message value => exact absurd rfl (h value)
  | fault cause => rfl
  | finish => rfl

/-- The ending completes no message. -/
theorem filterMap_close {bytes : List UInt8} (h : Frame.next? bytes = none) (ending : Ending) :
    ((Reader.mk (some bytes)).close ending).filterMap Item.message? = [] := by
  cases ending with
  | silent => rfl
  | broken cause => rfl
  | finished =>
    refine filterMap_last fun value hvalue => ?_
    obtain ⟨rest, hnext⟩ := Frame.next_of_read hvalue
    rw [h] at hnext
    cases hnext

/-- What is drained from bytes, and what the ending adds, are the messages that are read from the
bytes one after another. -/
theorem drained_messages (ending : Ending) (bytes : List UInt8) {reads : Nat}
    (h : bytes.length < reads) :
    ((drained bytes).1 ++ (drained bytes).2.close ending).filterMap Item.message? =
      Item.messages (Frame.readMany reads bytes) := by
  induction hn : bytes.length using Nat.strongRecOn generalizing bytes reads with
  | ind n ih =>
    subst hn
    obtain ⟨reads, rfl⟩ : ∃ m, reads = m + 1 := Nat.exists_eq_add_one.2 (by omega)
    rw [Frame.readMany]
    cases hnext : Frame.next? bytes with
    | none =>
      have hread : ∀ value, (Frame.read bytes).1 ≠ .message value := by
        intro value hvalue
        obtain ⟨rest, hnext'⟩ := Frame.next_of_read hvalue
        rw [hnext] at hnext'
        cases hnext'
      rw [drained_none hnext, List.nil_append, filterMap_close hnext]
      exact (Item.messages_of_other hread _).symm
    | some p =>
      obtain ⟨item, rest⟩ := p
      have hlt := Frame.length_next hnext
      rw [Frame.read_of_next hnext]
      by_cases hitem : ∃ value, item = .message value
      -- a message takes bytes, and so there are reads enough for the rest
      · obtain ⟨value, rfl⟩ := hitem
        rw [drained_message hnext]
        exact congrArg (value :: ·) (ih rest.length hlt rest (by omega) rfl)
      · have hother : ∀ value, item ≠ .message value := fun value hv => hitem ⟨value, hv⟩
        rw [drained_last hnext hother]
        refine Eq.trans ?_ (Item.messages_of_other hother _).symm
        rw [List.filterMap_append, filterMap_last hother]
        rfl

end Reader

/-- The message that arrives, if one does. -/
def Arrival.message? (a : Arrival) : Option Json := a.item.message?

/-- The items of a stream are those of its bytes, and what the ending adds. -/
theorem arrivals_items (chunks : List Chunk) (ending : Ending) :
    (arrivals chunks ending).map Arrival.item =
      (Reader.drained (chunks.flatMap Chunk.bytes)).1 ++
        (Reader.drained (chunks.flatMap Chunk.bytes)).2.close ending := by
  have hwaits : Reader.start.Waits := by
    intro pending hpending
    cases hpending
    rfl
  rw [arrivals, items_arrivalsFrom_close ending Reader.start hwaits]
  rfl

/-- **The arrivals of a stream are its messages**, up to its end or its first fault, however it is
cut into chunks. -/
theorem arrivals_messages (chunks : List Chunk) (ending : Ending) {reads : Nat}
    (h : (chunks.flatMap Chunk.bytes).length < reads) :
    (arrivals chunks ending).filterMap Arrival.message? =
      Item.messages (Frame.readMany reads (chunks.flatMap Chunk.bytes)) := by
  rw [← Reader.drained_messages ending _ h, ← arrivals_items, List.filterMap_map]
  rfl

/-- **A run of calls consumes the first messages of the stream and leaves the others**, each once
and in order, whatever the calls are and whenever they are given up. -/
theorem Client.run_messages {σ : Type} (client : Client σ) (hsilent : client.peer.IsSilent)
    (server : σ) (chunks : List Chunk) (ending : Ending) (calls : List (ClientCall × Option Nat))
    {reads : Nat} (h : (chunks.flatMap Chunk.bytes).length < reads) :
    let exchanges := (client.run calls (.opened server chunks ending)).1
    let last := (client.run calls (.opened server chunks ending)).2
    (exchanges.flatMap Exchange.consumed).filterMap Arrival.message? ++
        last.incoming.filterMap Arrival.message? =
      Item.messages (Frame.readMany reads (chunks.flatMap Chunk.bytes)) := by
  intro exchanges last
  have hran : Ran (.opened server chunks ending) exchanges last :=
    run_spec hsilent calls _ (readable_arrivals chunks ending)
  have hsplit : arrivals chunks ending = exchanges.flatMap Exchange.consumed ++ last.incoming :=
    hran.split
  rw [← List.filterMap_append, ← hsplit, arrivals_messages chunks ending h]

end DeadSymbols
