import DeadSymbols.Service

/-!
# Services that read a table

A service whose answers are written down for each file. It counts the calls that are made, and can
ask to stop during one of them.

* `table`: the service of a table.
-/

namespace DeadSymbols

/-- What a service answers about one file. -/
structure FileAnswers where
  /-- Why the file cannot be loaded, if so. -/
  loading : Option Fault := none
  outline : Except Fault (Option (List Symbol)) := .ok none
  references : Position → Except Fault (Option Nat) := fun _ => .ok none
  /-- Why the file cannot be released, if so. -/
  releasing : Option Fault := none

/-- The calls that were made, and whether the user has asked to stop. -/
structure CallCount where
  made : Nat := 0
  /-- The number of the call during which the user asks to stop. -/
  cancelAt : Option Nat := none
  cancelled : Bool := false
deriving DecidableEq, Repr

/-- Counts a call. -/
def CallCount.next (calls : CallCount) : CallCount :=
  { calls with
    made := calls.made + 1
    cancelled := calls.cancelled || calls.cancelAt == some (calls.made + 1) }

/-- Loads a file as a table says. -/
def FileAnswers.load (answers : FileAnswers) (path : String) : Except Fault Document :=
  match answers.loading with
  | some fault => .error fault
  | none => Document.ofPath path

/-- Releases a file as a table says. -/
def FileAnswers.release (answers : FileAnswers) : Except Fault Unit :=
  match answers.releasing with
  | some fault => .error fault
  | none => .ok ()

/-- The service of a table. It wants to be told about documents that are no longer needed if
`releases` is set. -/
def table (answers : String → FileAnswers) (releases : Bool) : Service CallCount where
  openDocument path calls := ((answers path).load path, calls.next)
  documentSymbols document calls := ((answers document.path).outline, calls.next)
  references document position calls :=
    ((answers document.path).references position, calls.next)
  closeDocument :=
    if releases then some fun document calls => ((answers document.path).release, calls.next)
    else none
  cancelled := CallCount.cancelled

end DeadSymbols
