import DeadSymbols.Proofs.Consumption

/-!
# The queue between reader and client

The output of a server is read by a task of its own. It puts one item after another in a queue that
holds only so many, and the client takes them from there, or gives up while it waits. Which of the
two goes on, and when bytes come, is left open.

* `Relay`, `Relay.Step`: the reader with its queue, and what may happen to them.
* `Relay.Runs.received`: whatever happens, the client receives the items of the stream in order.
* `Relay.left_of_stuck`: it waits in vain only if there is nothing left.
-/

namespace DeadSymbols

namespace Frame

theorem readBody_ne_finish {n : Nat} {bytes rest : List UInt8} :
    readBody false n bytes ≠ some (.finish, rest) := by
  intro h
  unfold readBody at h
  split at h
  · cases h
  · split at h
    · cases h
    · split at h <;> cases h

theorem readFrom_ne_finish {length : Option Nat} {line bytes rest : List UInt8} :
    readFrom false length line bytes ≠ some (.finish, rest) := by
  intro h
  induction bytes generalizing length line with
  | nil => cases h
  | cons b bytes ih =>
    rw [readFrom] at h
    split at h
    · split at h
      · exact ih h
      · exact readBody_ne_finish h
      · cases h
    · exact ih h

/-- As long as more bytes may come, a stream is not at its end. -/
theorem next_ne_finish (bytes rest : List UInt8) : next? bytes ≠ some (.finish, rest) :=
  readFrom_ne_finish

end Frame

/-- The reader of a stream with the queue of what it has read. -/
structure Relay where
  /-- The chunks that have not come. -/
  coming : List Chunk
  reader : Reader
  /-- An item that was read and is not in the queue. -/
  held : Option Item
  queue : List Item

namespace Relay

/-- Nothing has come. -/
def start (chunks : List Chunk) : Relay := ⟨chunks, Reader.start, none, []⟩

variable {capacity : Nat} {ending : Ending}

/-- Something that may happen, and what the client receives by it. -/
inductive Step (capacity : Nat) (ending : Ending) : Relay → List Item → Relay → Prop
  /-- A chunk comes. -/
  | come (bytes : List UInt8) (chunk : Chunk) (rest : List Chunk) (held : Option Item)
      (queue : List Item) :
    Step capacity ending ⟨chunk :: rest, ⟨some bytes⟩, held, queue⟩ []
      ⟨rest, ⟨some (bytes ++ chunk.bytes)⟩, held, queue⟩
  /-- A message is read. -/
  | read (coming : List Chunk) (bytes rest : List UInt8) (value : Json) (queue : List Item)
      (hnext : Frame.next? bytes = some (.message value, rest)) :
    Step capacity ending ⟨coming, ⟨some bytes⟩, none, queue⟩ []
      ⟨coming, ⟨some rest⟩, some (.message value), queue⟩
  /-- The bytes have a fault, and the reader stops. -/
  | fail (coming : List Chunk) (bytes rest : List UInt8) (cause : Fault) (queue : List Item)
      (hnext : Frame.next? bytes = some (.fault cause, rest)) :
    Step capacity ending ⟨coming, ⟨some bytes⟩, none, queue⟩ []
      ⟨coming, ⟨none⟩, some (.fault cause), queue⟩
  /-- The stream ends, in a fault or without one, and the reader stops. -/
  | stop (bytes : List UInt8) (held : Option Item) (queue : List Item)
      (hnext : Frame.next? bytes = none)
      (hclose : (Reader.mk (some bytes)).close ending = held.toList ++ [.finish]) :
    Step capacity ending ⟨[], ⟨some bytes⟩, none, queue⟩ [] ⟨[], ⟨none⟩, held, queue⟩
  /-- There is room for an item. -/
  | put (coming : List Chunk) (reader : Reader) (item : Item) (queue : List Item)
      (hroom : queue.length < capacity) :
    Step capacity ending ⟨coming, reader, some item, queue⟩ []
      ⟨coming, reader, none, queue ++ [item]⟩
  /-- The client takes an item. -/
  | receive (coming : List Chunk) (reader : Reader) (held : Option Item) (item : Item)
      (queue : List Item) :
    Step capacity ending ⟨coming, reader, held, item :: queue⟩ [item] ⟨coming, reader, held, queue⟩
  /-- The client learns that no more items will come. It may learn so again. -/
  | learn (coming : List Chunk) :
    Step capacity ending ⟨coming, ⟨none⟩, none, []⟩ [.finish] ⟨coming, ⟨none⟩, none, []⟩
  /-- The client gives up while it waits. -/
  | giveUp (relay : Relay) : Step capacity ending relay [] relay

/-- Some steps, and what the client receives by them. -/
inductive Runs (capacity : Nat) (ending : Ending) : Relay → List Item → Relay → Prop
  | nil (relay : Relay) : Runs capacity ending relay [] relay
  | cons {relay next last : Relay} {now later : List Item}
      (hstep : Step capacity ending relay now next) (hruns : Runs capacity ending next later last) :
    Runs capacity ending relay (now ++ later) last

/-- What the reader will still read. -/
def unread (ending : Ending) (relay : Relay) : List Item :=
  match relay.reader.pending with
  | none => [.finish]
  | some bytes =>
    let (items, reader) := Reader.drained (bytes ++ relay.coming.flatMap Chunk.bytes)
    items ++ reader.close ending

/-- What the client has not received. -/
def left (ending : Ending) (relay : Relay) : List Item :=
  relay.queue ++ relay.held.toList ++ relay.unread ending

theorem unread_message {coming : List Chunk} {bytes rest : List UInt8} {value : Json}
    (hnext : Frame.next? bytes = some (.message value, rest)) (held held' : Option Item)
    (queue queue' : List Item) :
    (Relay.mk coming ⟨some bytes⟩ held queue).unread ending =
      .message value :: (Relay.mk coming ⟨some rest⟩ held' queue').unread ending := by
  have hmore := Frame.next_append hnext (coming.flatMap Chunk.bytes)
  simp only [unread, Reader.drained_message hmore, List.cons_append]

theorem unread_fault {coming : List Chunk} {bytes rest : List UInt8} {cause : Fault}
    (hnext : Frame.next? bytes = some (.fault cause, rest)) (held : Option Item)
    (queue : List Item) :
    (Relay.mk coming ⟨some bytes⟩ held queue).unread ending = [.fault cause, .finish] := by
  have hmore := Frame.next_append hnext (coming.flatMap Chunk.bytes)
  have hother : ∀ value, Item.fault cause ≠ .message value := fun _ => Item.noConfusion
  simp only [unread, Reader.drained_last hmore hother]
  rfl

theorem unread_nil {bytes : List UInt8} (hnext : Frame.next? bytes = none) (held : Option Item)
    (queue : List Item) :
    (Relay.mk [] ⟨some bytes⟩ held queue).unread ending =
      (Reader.mk (some bytes)).close ending := by
  simp only [unread, List.flatMap_nil, List.append_nil, Reader.drained_none hnext, List.nil_append]

/-- **One step** gives the client what was left first, or tells it again that nothing is. -/
theorem Step.received {relay next : Relay} {now : List Item}
    (h : Step capacity ending relay now next) :
    now ++ next.left ending = relay.left ending ∨
      now = [.finish] ∧ next = relay ∧ relay.left ending = [.finish] := by
  cases h with
  | come bytes chunk rest held queue =>
    left
    simp only [left, unread, List.flatMap_cons, List.append_assoc, List.nil_append]
  | read coming bytes rest value queue hnext =>
    left
    simp only [left, unread_message hnext none (some (.message value)) queue queue]
    simp
  | fail coming bytes rest cause queue hnext =>
    left
    simp only [left, unread_fault hnext none queue]
    simp [unread]
  | stop bytes held queue hnext hclose =>
    left
    simp only [left, unread_nil hnext, hclose]
    simp [unread]
  | put coming reader item queue hroom =>
    left
    simp [left, unread]
  | receive coming reader held item queue =>
    left
    simp [left, unread]
  | learn coming => exact .inr ⟨rfl, rfl, rfl⟩
  | giveUp relay => exact .inl rfl

/-- **The client receives the items of a stream in order**, none of them twice and none left out,
and after them the end any number of times. -/
theorem Runs.received {relay last : Relay} {items : List Item}
    (h : Runs capacity ending relay items last) :
    ∃ again, items ++ last.left ending = relay.left ending ++ List.replicate again .finish := by
  induction h with
  | nil relay => exact ⟨0, by simp⟩
  | @cons relay next last now later hstep hruns ih =>
    obtain ⟨again, hlater⟩ := ih
    rw [List.append_assoc, hlater]
    rcases hstep.received with hnow | ⟨rfl, rfl, hleft⟩
    · exact ⟨again, by rw [← List.append_assoc, hnow]⟩
    · exact ⟨again + 1, by rw [hleft, List.replicate_succ]; rfl⟩

/-- A stream without another item is silent from then on, or it ends, in a fault or without one. -/
theorem close_of_next {bytes : List UInt8} (hnext : Frame.next? bytes = none) (ending : Ending) :
    (Reader.mk (some bytes)).close ending = [] ∨
      ∃ held : Option Item, (Reader.mk (some bytes)).close ending = held.toList ++ [.finish] := by
  cases ending with
  | silent => exact .inl rfl
  | broken cause => exact .inr ⟨some (.fault (.io cause)), rfl⟩
  | finished =>
    right
    show ∃ held : Option Item, Reader.last (Frame.read bytes).1 = held.toList ++ [.finish]
    cases hread : (Frame.read bytes).1 with
    | message value =>
      -- the message would have been there before the end
      obtain ⟨rest, hmessage⟩ := Frame.next_of_read hread
      rw [hnext] at hmessage
      cases hmessage
    | fault cause => exact ⟨some (.fault cause), rfl⟩
    | finish => exact ⟨none, rfl⟩

/-- Nothing can happen any more but that the client gives up. -/
def IsStuck (capacity : Nat) (ending : Ending) (relay : Relay) : Prop :=
  ∀ now next, Step capacity ending relay now next → now = [] ∧ next = relay

/-- **A client waits in vain only if nothing is left**, when there is room in the queue at all. -/
theorem left_of_stuck (hcapacity : 0 < capacity) {relay : Relay}
    (h : relay.IsStuck capacity ending) : relay.left ending = [] := by
  obtain ⟨coming, ⟨pending⟩, held, queue⟩ := relay
  -- first what the client may take, then what the reader holds, then what it may read
  cases queue with
  | cons item queue => cases (h _ _ (.receive coming ⟨pending⟩ held item queue)).1
  | nil =>
    cases held with
    | some item => cases (h _ _ (.put coming ⟨pending⟩ item [] hcapacity)).2
    | none =>
      cases pending with
      | none => cases (h _ _ (.learn coming)).1
      | some bytes =>
        cases hnext : Frame.next? bytes with
        | some p =>
          obtain ⟨item, rest⟩ := p
          cases item with
          | message value => cases (h _ _ (.read coming bytes rest value [] hnext)).2
          | fault cause => cases (h _ _ (.fail coming bytes rest cause [] hnext)).2
          | finish => exact absurd hnext (Frame.next_ne_finish bytes rest)
        | none =>
          cases coming with
          | cons chunk coming =>
            -- even an empty chunk changes what is still to come
            have hcome := (h _ _ (.come bytes chunk coming none [])).2
            have hlength := congrArg (fun relay => relay.coming.length) hcome
            simp at hlength
          | nil =>
            rcases close_of_next hnext ending with hclose | ⟨held, hclose⟩
            · exact (unread_nil hnext none []).trans hclose
            · cases (h _ _ (.stop bytes held [] hnext hclose)).2

end Relay

end DeadSymbols
