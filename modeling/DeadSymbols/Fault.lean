import DeadSymbols.Json.Printer
import DeadSymbols.OsError

/-!
# Faults

Why a request to a language server, or the start of one, fails, and the words for it.

* `Fault.message`: the words.
* `Fault.isLoadFailure`: the faults in which the server had no part, because the file itself could
  not be loaded.
-/

namespace DeadSymbols

/-- How a server breaks the rules of the conversation. -/
inductive ProtocolFault where
  /-- A header without the length of the body. -/
  | missingLength
  /-- A header that announces a body above the limit. -/
  | oversized (length limit : Nat)
  /-- A message that has neither an id nor a method. -/
  | unaddressed (message : Json)
  | described (text : String)

/-- Why a request fails. -/
inductive Fault where
  /-- The command line of the server has no words. -/
  | emptyCommand
  | spawn (command : String) (cause : OsError)
  | load (path : String) (cause : OsError)
  | io (cause : OsError)
  /-- A message, or a part of it, is not of the expected form. -/
  | json
  | protocol (cause : ProtocolFault)
  /-- The server answered with an error. -/
  | server (method : String) (code : Int) (message : String)
  | closed
  | timeout (method : String)
  /-- A path that no file URI stands for. -/
  | invalidPath (path : String)
  /-- Nothing arrived as long as the caller was willing to wait. -/
  | unanswered

/-- The words for a broken rule. -/
def ProtocolFault.message : ProtocolFault → String
  | missingLength => "missing Content-Length header"
  | oversized length limit => s!"Content-Length {length} exceeds the {limit} byte limit"
  | unaddressed message => s!"message without id or method: {message.compact}"
  | described text => text

namespace Fault

/-- The words for a fault. What a decoder says of a message that it cannot read is left out. -/
def message : Fault → String
  | emptyCommand => "Language server command is empty"
  | spawn command cause => s!"Failed to start language server '{command}': {cause.message}"
  | load path cause => s!"Failed to read {path}: {cause.message}"
  | io cause => s!"I/O error: {cause.message}"
  | json => "Malformed message:"
  | protocol cause => s!"Protocol error: {cause.message}"
  | server method code message => s!"{method} failed with code {code}: {message}"
  | closed => "Language server closed the connection"
  | timeout method => s!"{method} timed out"
  | invalidPath path => s!"Cannot express {path} as a file URI"
  | unanswered => "No answer"

/-- Whether the file itself could not be loaded. -/
def isLoadFailure : Fault → Bool
  | load _ _ | invalidPath _ => true
  | _ => false

end Fault

end DeadSymbols
