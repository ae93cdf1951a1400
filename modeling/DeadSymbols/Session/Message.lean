import DeadSymbols.Json.Basic
import DeadSymbols.Outline.Basic

/-!
# Messages of a client

The requests, notifications and answers that a client writes, with their members sorted by key.
-/

namespace DeadSymbols

namespace Message

/-- A request. -/
def request (id : Nat) (method : String) (params : Json) : Json :=
  .object [("id", .integer id), ("jsonrpc", .text "2.0"), ("method", .text method),
    ("params", params)]

/-- A notification. -/
def notification (method : String) (params : Json) : Json :=
  .object [("jsonrpc", .text "2.0"), ("method", .text method), ("params", params)]

/-- The answer to a request of the server. -/
def answer (id : Json) (result : Json) : Json :=
  .object [("id", id), ("jsonrpc", .text "2.0"), ("result", result)]

/-- Names a document. -/
def textDocument (uri : String) : String × Json :=
  ("textDocument", .object [("uri", .text uri)])

/-- A place in a document. -/
def position (position : Position) : Json :=
  .object [("character", .integer position.character.toNat),
    ("line", .integer position.line.toNat)]

/-- What the client can do. -/
def capabilities : Json :=
  .object [
    ("textDocument", .object [
      ("documentSymbol", .object [("hierarchicalDocumentSymbolSupport", .bool true)]),
      ("references", .object [("dynamicRegistration", .bool false)]),
      ("synchronization", .object [("didSave", .bool false)])]),
    ("workspace", .object [("configuration", .bool true), ("workspaceFolders", .bool true)])]

/-- The name under which the client introduces itself. -/
def clientName : String := "dartdeadcode"

/-- The version of the client. -/
def clientVersion : String := "0.1.0"

/-- What the client tells about itself and the folder that it works in. -/
def introduction (processId : Nat) (uri name : String) (options : Option Json) : Json :=
  let settings := match options with
    | some v => [("initializationOptions", v)]
    | none => []
  .object ([("capabilities", capabilities),
    ("clientInfo", .object [("name", .text clientName), ("version", .text clientVersion)])] ++
    settings ++ [("processId", .integer processId), ("rootUri", .text uri),
    ("workspaceFolders", .array [.object [("name", .text name), ("uri", .text uri)]])])

end Message

end DeadSymbols
