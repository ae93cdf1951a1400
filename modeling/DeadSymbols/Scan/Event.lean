import DeadSymbols.Outline.Basic

/-!
# Events of scans

The steps of a scan in order: the progress that it announces and the calls that it makes.
-/

namespace DeadSymbols

/-- One step of a scan. -/
inductive Event where
  /-- A scan of some number of files begins. -/
  | start (total : Nat)
  /-- A file, counted from one, begins. -/
  | advance (index : Nat) (message : String)
  | openDocument (path : String)
  | documentSymbols (path : String)
  | references (path : String) (position : Position)
  | closeDocument (path : String)
  | finish (cancelled : Bool) (findings : Nat)
deriving DecidableEq, Repr

/-- The line for an event. -/
def Event.text : Event → String
  | start total => s!"start {total}"
  | advance index message => s!"advance {index} {message}"
  | openDocument path => s!"open {path}"
  | documentSymbols path => s!"symbols {path}"
  | references path position =>
    s!"references {path} {position.line.toNat}:{position.character.toNat}"
  | closeDocument path => s!"close {path}"
  | finish cancelled findings => s!"finish {cancelled} {findings}"

end DeadSymbols
