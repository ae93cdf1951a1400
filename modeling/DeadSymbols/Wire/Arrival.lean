import DeadSymbols.Wire.Frame

/-!
# Arrivals

The output of a server comes in chunks at certain times. A reader cuts it into items as soon as
their last byte is there, and stops at the first fault; after that there is only the end.

* `Reader.feed`: the items that a chunk completes.
* `arrivals`: all items of a sequence of chunks, with the times at which they are complete.
-/

namespace DeadSymbols

/-- Bytes that come at a time, in milliseconds. -/
structure Chunk where
  time : Nat
  bytes : List UInt8

/-- What follows the last chunk. -/
inductive Ending where
  | finished
  /-- Reading fails. -/
  | broken (cause : OsError)
  /-- Nothing, ever. -/
  | silent

/-- An item and the time at which it is complete. -/
structure Arrival where
  time : Nat
  item : Item

/-- The bytes that belong to no complete item yet; none once the reader has stopped. -/
structure Reader where
  pending : Option (List UInt8)

namespace Reader

/-- A reader that has seen nothing. -/
def start : Reader := ⟨some []⟩

/-- An item after which a reader stops, and what is there to be read from then on. -/
def last (item : Item) : List Item :=
  match item with
  | .finish => [.finish]
  | item => [item, .finish]

/-- Takes complete items off the start of some bytes, at most `fuel` of them. -/
def drain : Nat → List UInt8 → List Item × Reader
  | 0, bytes => ([], ⟨some bytes⟩)
  | fuel + 1, bytes =>
    match Frame.next? bytes with
    | none => ([], ⟨some bytes⟩)
    | some (.message value, rest) =>
      let (items, reader) := drain fuel rest
      (.message value :: items, reader)
    | some (item, _) => (last item, ⟨none⟩)

/-- The items that further bytes complete. Each item takes at least one byte. -/
def feed (reader : Reader) (bytes : List UInt8) : List Item × Reader :=
  match reader.pending with
  | none => ([], reader)
  | some pending => drain ((pending ++ bytes).length + 1) (pending ++ bytes)

/-- The last items, when the stream ends. -/
def close (reader : Reader) (ending : Ending) : List Item :=
  match reader.pending, ending with
  | none, _ => []
  | some _, .silent => []
  | some _, .broken cause => last (.fault (.io cause))
  | some pending, .finished => last (Frame.read pending).1

end Reader

/-- The items of the chunks that are still to come, the first not before `time`. -/
def arrivalsFrom (ending : Ending) (reader : Reader) (time : Nat) : List Chunk → List Arrival
  | [] => (reader.close ending).map (Arrival.mk time)
  | chunk :: rest =>
    let time := max time chunk.time
    let (items, reader) := reader.feed chunk.bytes
    items.map (Arrival.mk time) ++ arrivalsFrom ending reader time rest

/-- The items of a sequence of chunks. A chunk comes not before the one in front of it. -/
def arrivals (chunks : List Chunk) (ending : Ending) : List Arrival :=
  arrivalsFrom ending Reader.start 0 chunks

end DeadSymbols
