import DeadSymbols.Session.Launch
import DeadSymbols.Session.Message

/-!
# Servers with prepared replies

A server that has a list of replies, one for each request, and answers with null when the list is
used up. It stops when it is told to exit, or where a reply says so; after that it takes no more
messages.

* `Replies.peer`: such a server.
* `Replies.launcher`: the one program that is such a server, among the files of a tree.
-/

namespace DeadSymbols

/-- A part of a reply. -/
inductive ReplyPart where
  | message (value : Json)
  /-- Bytes that need not be a frame. -/
  | raw (bytes : List UInt8)
  /-- The server stops at once. -/
  | stop

/-- A server with prepared replies. -/
structure Replies where
  /-- The replies to the requests that are still to come. -/
  pending : List (List ReplyPart)
  /-- What the client makes of the bytes that the server wrote. -/
  reader : Reader := Reader.start
  stopped : Bool := false

namespace Replies

/-- Stops the server; its output ends. -/
def stop (server : Replies) : List Item × Replies :=
  (server.reader.close .finished, { server with stopped := true })

/-- Writes the parts of a reply; gives what the client reads of them. -/
def write : List ReplyPart → Replies → List Item × Replies
  | [], server => ([], server)
  | .stop :: _, server => server.stop
  | .message value :: rest, server =>
    let (items, reader) := server.reader.feed (Frame.bytes value)
    let (more, server) := write rest { server with reader := reader }
    (items ++ more, server)
  | .raw bytes :: rest, server =>
    let (items, reader) := server.reader.feed bytes
    let (more, server) := write rest { server with reader := reader }
    (items ++ more, server)

/-- Answers a request with the next reply. -/
def answer (id : Json) (server : Replies) : List Item × Replies :=
  match server.pending with
  | [] => write [.message (Message.answer id .null)] server
  | reply :: rest => write reply { server with pending := rest }

/-- Takes a message; gives what the client reads because of it. -/
def take (message : Json) (server : Replies) : List Item × Replies :=
  match message.get? "method", message.get? "id" with
  | some _, some id => server.answer id
  | some (.text "exit"), none => server.stop
  | _, _ => ([], server)

/-- The server. A reply is there a moment after the request. -/
def peer : Peer Replies where
  hear time message server :=
    if server.stopped then (.error .brokenPipe, server)
    else
      let (items, server) := server.take message
      (.ok (items.map (Arrival.mk (time + 1))), server)
  accept _ server := (if server.stopped then .error .brokenPipe else .ok (), server)

/-- Starts the server under the name `program`; no other word names a program. -/
def launcher (tree : FileTree) (program : String) (replies : List (List ReplyPart)) :
    Launcher Replies where
  peer := peer
  start words folder :=
    match tree.program words folder with
    | .error cause => .error cause
    | .ok (word, names) =>
      if word == program then .ok { peer := ⟨replies, Reader.start, false⟩, incoming := [] }
      else .error ((tree.within names).refusal word)

end Replies

end DeadSymbols
