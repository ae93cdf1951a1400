import DeadSymbols.Fault
import DeadSymbols.Outline.Basic
import DeadSymbols.Uri.File

/-!
# Symbol services

What a scan asks about a file: its outline, and how many references a symbol has. A service is a
set of operations on a state; each gives an answer or a fault, and the next state.
-/

namespace DeadSymbols

/-- A document that a service has loaded. -/
structure Document where
  path : String
  uri : String
deriving DecidableEq, Repr

/-- The document at a path, which has to be absolute. -/
def Document.ofPath (path : String) : Except Fault Document :=
  match Uri.ofFile? path with
  | some uri => .ok ⟨path, uri⟩
  | none => .error (.invalidPath path)

/-- The operations of a service with states `σ`. -/
structure Service (σ : Type) where
  /-- Loads the file at a path. -/
  openDocument : String → σ → Except Fault Document × σ
  /-- The outline of a loaded document, if there is one. -/
  documentSymbols : Document → σ → Except Fault (Option (List Symbol)) × σ
  /-- How many references there are to the symbol at a place, its declaration included. -/
  references : Document → Position → σ → Except Fault (Option Nat) × σ
  /-- Releases a document, for services that want to be told. -/
  closeDocument : Option (Document → σ → Except Fault Unit × σ)
  /-- Whether the user has asked to stop. -/
  cancelled : σ → Bool

end DeadSymbols
