import DeadSymbols.Session.Basic
import DeadSymbols.Session.Routing

/-!
# Requests

A client has one request at a time. It writes the request and then consumes what arrives until the
answer is there, its patience ends or the connection does; requests of the server are answered on
the way. The end of the connection is never consumed, so that later requests find it too.

* `Session.await`: consumes arrivals until a request is settled.
* `Session.request`, `Session.notify`: the two kinds of messages a client starts.
-/

namespace DeadSymbols.Session

variable {σ : Type}

/-- Consumes arrivals until the request `id` is settled. -/
def await (peer : Peer σ) (id : Nat) (method : String) (deadline : Option Nat) :
    List Arrival → Session σ → Except Fault Json × Session σ
  | [], s => awaitNothing method deadline { s with incoming := [] }
  | a :: rest, s =>
    match s.awaitItem? deadline a.time with
    | none => awaitNothing method deadline { s with incoming := a :: rest }
    | some s =>
      match a.item with
      | .finish => (.error .closed, { s with incoming := a :: rest })
      | .fault cause => (.error cause, { s with incoming := rest })
      | .message v =>
        match route id method v with
        | .settled result => (result, { s with incoming := rest })
        | .passed => await peer id method deadline rest s
        | .asked answer =>
          match s.reply peer answer with
          | (.error fault, s) => (.error fault, { s with incoming := rest })
          | (.ok (), s) => await peer id method deadline rest s

/-- Sends a request and waits for the answer, for at most `limit` if there is a limit. The wait
begins when the request is written. -/
def requestWithin (peer : Peer σ) (limit : Option Nat) (method : String) (params : Json)
    (s : Session σ) : Except Fault Json × Session σ :=
  let id := s.nextId
  match { s with nextId := id + 1 }.send peer (Message.request id method params) with
  | (.error fault, s) => (.error fault, s)
  | (.ok (), s) => await peer id method (limit.map (s.clock + ·)) s.incoming s

/-- Sends a notification. -/
def notify (peer : Peer σ) (method : String) (params : Json) (s : Session σ) :
    Except Fault Unit × Session σ :=
  s.send peer (Message.notification method params)

end DeadSymbols.Session
