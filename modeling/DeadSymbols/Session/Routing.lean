import DeadSymbols.Session.Message
import DeadSymbols.Wire.Frame

/-!
# Routing of messages

While a client waits for the answer to a request, the server may send requests and notifications
of its own, and answers to requests that the client has given up. What a message is follows from
its members `method`, which counts only if it is a text, and `id`.

* `route`: what a message means for a client that waits for an answer.
-/

namespace DeadSymbols

/-- What a message means for a client that waits. -/
inductive Route where
  /-- The wait is over. -/
  | settled (result : Except Fault Json)
  /-- A request of the server, and the answer to it. -/
  | asked (answer : Json)
  /-- A notification, or an answer that nobody waits for. -/
  | passed

namespace Route

/-- The answer to a request of the server: null, or as many nulls as there are items of the
configuration that it asks for. -/
def answerTo (method : String) (params : Option Json) : Json :=
  if method == "workspace/configuration" then
    let items := ((params.bind (·.get? "items")).bind Json.asArray?).getD []
    .array (items.map fun _ => .null)
  else
    .null

/-- The result in an answer. -/
def resultOf (method : String) (message : Json) : Except Fault Json :=
  match message.get? "error" with
  | some e =>
    let code := ((e.get? "code").bind Json.asInt64?).getD 0
    let text := ((e.get? "message").bind Json.asText?).getD ""
    .error (.server method code text)
  | none => .ok ((message.get? "result").getD .null)

end Route

/-- What a message means for a client that waits for the answer to request `id`. -/
def route (id : Nat) (method : String) (message : Json) : Route :=
  match (message.get? "method").bind Json.asText?, message.get? "id" with
  | some asked, some theirs =>
    .asked (Message.answer theirs (Route.answerTo asked (message.get? "params")))
  | some _, none => .passed
  | none, some theirs =>
    if theirs.asInt64? == some (id : Int) then .settled (Route.resultOf method message)
    else .passed
  | none, none => .settled (.error (.protocol (.unaddressed message)))

end DeadSymbols
