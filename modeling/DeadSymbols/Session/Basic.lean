import DeadSymbols.Json.Basic
import DeadSymbols.Wire.Arrival

/-!
# Sessions

A session is the conversation of a client with a server. Time is counted in milliseconds, and
passes only while the client waits. A client that waits without a limit for what never comes is
lost to its caller, like one whose caller has given up: the session is abandoned, and nothing is
written in it any more. A message is taken or refused at once: that a write may have to wait until
the server reads is left out.

* `Peer`: the server, as far as it takes messages.
* `Session`: the state of a conversation.
* `Session.send`: writes a message.
-/

namespace DeadSymbols

/-- The receiving side of a server with states `σ`. -/
structure Peer (σ : Type) where
  /-- Takes a request or notification at a time; gives what the server sends because of it. -/
  hear : Nat → Json → σ → Except OsError (List Arrival) × σ
  /-- Takes an answer to a request of the server. -/
  accept : Json → σ → Except OsError Unit × σ

/-- The state of a conversation. -/
structure Session (σ : Type) where
  peer : σ
  /-- What the server sends and the client has not consumed. -/
  incoming : List Arrival
  clock : Nat := 0
  /-- What arrived before this time needs no wait to be consumed. -/
  atHand : Nat := 0
  /-- The id of the next request. -/
  nextId : Nat := 1
  /-- The messages that were written. -/
  sent : List Json := []
  /-- The time from which nothing happens any more, if there is one: the caller gives up then, or
  the client began to wait for what never comes. -/
  closing : Option Nat := none

namespace Session

variable {σ : Type}

/-- Whether nothing happens any more. -/
def isAbandoned (s : Session σ) : Bool :=
  match s.closing with
  | some t => t ≤ s.clock
  | none => false

/-- Writes a request or a notification. -/
def send (peer : Peer σ) (message : Json) (s : Session σ) : Except Fault Unit × Session σ :=
  if s.isAbandoned then (.error .unanswered, s)
  else
    match peer.hear s.clock message s.peer with
    | (.error cause, p) => (.error (.io cause), { s with peer := p })
    | (.ok more, p) =>
      (.ok (), { s with peer := p, incoming := s.incoming ++ more, sent := s.sent ++ [message] })

/-- Writes an answer. -/
def reply (peer : Peer σ) (answer : Json) (s : Session σ) : Except Fault Unit × Session σ :=
  match peer.accept answer s.peer with
  | (.error cause, p) => (.error (.io cause), { s with peer := p })
  | (.ok (), p) => (.ok (), { s with peer := p, sent := s.sent ++ [answer] })

/-- Lets the client wait for an item that arrives at `time`; `none` if the client or its caller
stops waiting before. -/
def awaitItem? (deadline : Option Nat) (time : Nat) (s : Session σ) : Option (Session σ) :=
  if time < s.atHand then some s
  else if deadline.all (time < ·) && s.closing.all (time < ·) then
    let clock := max s.clock time
    some { s with clock := clock, atHand := clock + 1 }
  else
    none

/-- Lets the client wait in vain. If there is no limit to the wait, it is the end of the session:
the client never comes to do anything else. -/
def awaitNothing (method : String) (deadline : Option Nat) (s : Session σ) :
    Except Fault Json × Session σ :=
  let waited (time : Nat) : Session σ :=
    { s with clock := max s.clock time, atHand := max s.atHand time }
  match deadline, s.closing with
  | some d, some c =>
    if d ≤ c then (.error (.timeout method), waited d) else (.error .unanswered, waited c)
  | some d, none => (.error (.timeout method), waited d)
  | none, some c => (.error .unanswered, waited c)
  | none, none => (.error .unanswered, { s with closing := some s.clock })

end Session

end DeadSymbols
