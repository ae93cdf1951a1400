import DeadSymbols.Session.Basic

/-!
# Servers with a fixed output

A server whose output comes in chunks at fixed times, whatever is written to it, and which may
stop taking messages.

* `Stream.session`: the session with such a server.
-/

namespace DeadSymbols

/-- How many more messages the server takes; no limit if there is no number. -/
structure Stream where
  room : Option Nat

namespace Stream

/-- Why a message is not taken. -/
def refusal : OsError := .described "broken pipe"

/-- Takes one message, if there is room. -/
def take (stream : Stream) : Except OsError Unit × Stream :=
  match stream.room with
  | none => (.ok (), stream)
  | some 0 => (.error refusal, stream)
  | some (n + 1) => (.ok (), ⟨some n⟩)

/-- The server, which says nothing because of what it hears. -/
def peer : Peer Stream where
  hear _ _ stream := (stream.take.1.map fun _ => [], stream.take.2)
  accept _ stream := stream.take

/-- The session with a server of which the whole output is given. -/
def session (chunks : List Chunk) (ending : Ending) (room : Option Nat) : Session Stream where
  peer := ⟨room⟩
  incoming := arrivals chunks ending

end Stream

end DeadSymbols
