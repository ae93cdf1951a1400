import DeadSymbols.FileTree
import DeadSymbols.Outline.Decode
import DeadSymbols.Service
import DeadSymbols.Session.Request

/-!
# Clients of language servers

What a client says to a language server: the handshake, the queries about documents, and the
farewell.

* `Client.handshake`, `Client.shutdown`: the first and the last exchange.
* `Client.service`: the client as a service for scans.
-/

namespace DeadSymbols

/-- A client of a server with states `σ`. -/
structure Client (σ : Type) where
  peer : Peer σ
  /-- The files from which documents are read. -/
  files : FileTree
  languageId : String
  /-- The longest wait for an answer, in milliseconds. -/
  requestLimit : Option Nat := none
  /-- The longest wait for the answer to the farewell, in milliseconds. -/
  shutdownLimit : Nat := 5000
  /-- The number of the client's process. -/
  processId : Nat

namespace Client

variable {σ : Type}

/-- Goes on with the result of an exchange, unless it is a fault. -/
def andThen {α β : Type} (exchange : Except Fault α × Session σ)
    (next : α → Session σ → Except Fault β × Session σ) : Except Fault β × Session σ :=
  match exchange with
  | (.ok a, s) => next a s
  | (.error fault, s) => (.error fault, s)

/-- Sends a request and waits for the answer. -/
def request (client : Client σ) (method : String) (params : Json) (s : Session σ) :
    Except Fault Json × Session σ :=
  s.requestWithin client.peer client.requestLimit method params

/-- Sends a notification. -/
def notify (client : Client σ) (method : String) (params : Json) (s : Session σ) :
    Except Fault Unit × Session σ :=
  s.notify client.peer method params

/-- Introduces the client to the server; gives what the server tells about itself. -/
def handshake (client : Client σ) (root : String) (options : Option Json) (s : Session σ) :
    Except Fault Json × Session σ :=
  match Uri.ofFolder? root with
  | none => (.error (.invalidPath root), s)
  | some uri =>
    let name := (Path.fileName? root).getD "workspace"
    andThen (client.request "initialize" (Message.introduction client.processId uri name options) s)
      fun result s =>
        andThen (client.notify "initialized" (.object []) s) fun _ s => (.ok result, s)

/-- Opens the document at a path. While the file is read, whatever has arrived comes to hand. -/
def openDocument (client : Client σ) (path : String) (s : Session σ) :
    Except Fault Document × Session σ :=
  match Document.ofPath path with
  | .error fault => (.error fault, s)
  | .ok document =>
    if s.isAbandoned then (.error .unanswered, s)
    else
      let s := { s with atHand := max s.atHand (s.clock + 1) }
      match client.files.readText path with
      | .error cause => (.error (.load path cause), s)
      | .ok text =>
        let params := Json.object [("textDocument", .object [
          ("languageId", .text client.languageId), ("text", .text text),
          ("uri", .text document.uri), ("version", .integer 1)])]
        andThen (client.notify "textDocument/didOpen" params s) fun _ s => (.ok document, s)

/-- The answer that a decoder finds in a result. -/
def decoded {α : Type} (decode : Json → Option α) (result : Json) : Except Fault α :=
  match decode result with
  | some a => .ok a
  | none => .error .json

/-- Asks for the outline of a document. -/
def documentSymbols (client : Client σ) (document : Document) (s : Session σ) :
    Except Fault (Option (List Symbol)) × Session σ :=
  andThen (client.request "textDocument/documentSymbol"
      (.object [Message.textDocument document.uri]) s) fun result s =>
    ((decoded Outline.ofJson? result).map fun outline => outline.map (·.symbols), s)

/-- Asks for the references to the symbol at a place. -/
def locations (client : Client σ) (document : Document) (position : Position) (s : Session σ) :
    Except Fault (Option (List Location)) × Session σ :=
  andThen (client.request "textDocument/references"
      (.object [("context", .object [("includeDeclaration", .bool true)]),
        ("position", Message.position position), Message.textDocument document.uri]) s)
    fun result s => (decoded Location.list? result, s)

/-- How many references there are to the symbol at a place. -/
def references (client : Client σ) (document : Document) (position : Position) (s : Session σ) :
    Except Fault (Option Nat) × Session σ :=
  andThen (client.locations document position s) fun found s => (.ok (found.map (·.length)), s)

/-- Closes a document. -/
def closeDocument (client : Client σ) (document : Document) (s : Session σ) :
    Except Fault Unit × Session σ :=
  client.notify "textDocument/didClose" (.object [Message.textDocument document.uri]) s

/-- Asks the server to stop, and tells it to exit if it agrees. That its process is waited for, and
is ended if it goes on, is left out. -/
def shutdown (client : Client σ) (s : Session σ) : Except Fault Unit × Session σ :=
  andThen (s.requestWithin client.peer (some client.shutdownLimit) "shutdown" .null) fun _ s =>
    client.notify "exit" .null s

/-- The client as a service for scans. Nobody asks it to stop. -/
def service (client : Client σ) : Service (Session σ) where
  openDocument := client.openDocument
  documentSymbols := client.documentSymbols
  references := client.references
  closeDocument := some client.closeDocument
  cancelled _ := false

end Client

end DeadSymbols
