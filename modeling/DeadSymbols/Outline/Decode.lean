import DeadSymbols.Json.Record
import DeadSymbols.Outline.Basic
import DeadSymbols.Uri.Absolute

/-!
# Outlines and locations as answers of a server

A server gives the outline of a document as a tree, or as a flat list in which each symbol has a
location. The flat form is tried first, so an empty list counts as flat.

* `Outline.ofJson?`: the outline that an answer holds.
* `Location.list?`: the locations that an answer holds.
-/

namespace DeadSymbols

open Json

/-- A place from a start up to an end. -/
structure Range where
  start : Position
  stop : Position
deriving DecidableEq, Repr

/-- A range in a document. -/
structure Location where
  uri : String
  range : Range
deriving DecidableEq, Repr

/-- Reads a position. -/
def Position.ofJson? (v : Json) : Option Position := do
  let fields ← v.record? ["line", "character"] false
  some ⟨← required? fields "line" asUInt32?, ← required? fields "character" asUInt32?⟩

/-- Reads a range. -/
def Range.ofJson? (v : Json) : Option Range := do
  let fields ← v.record? ["start", "end"] false
  some ⟨← required? fields "start" Position.ofJson?, ← required? fields "end" Position.ofJson?⟩

/-- Reads an absolute URL. -/
def readUri? (v : Json) : Option String := do
  let s ← v.asText?
  if Uri.isAbsolute s then some s else none

/-- Reads a location. -/
def Location.ofJson? (v : Json) : Option Location := do
  let fields ← v.record? ["uri", "range"] false
  some ⟨← required? fields "uri" readUri?, ← required? fields "range" Range.ofJson?⟩

/-- Reads the answer to a reference query: a list of locations, or null. -/
def Location.list? (v : Json) : Option (Option (List Location)) :=
  nullable? (Json.list? Location.ofJson?) v

/-- Reads the kind of a symbol. -/
def SymbolKind.ofJson? (v : Json) : Option SymbolKind := v.asInt32?.map SymbolKind.mk

/-- Reads a list of symbol tags, which are 32-bit numbers. -/
def readTags? (v : Json) : Option (List Int) := Json.list? asInt32? v

/-- Reads a symbol of a flat outline. -/
def Symbol.ofFlat? (v : Json) : Option Symbol := do
  let fields ← v.record?
    ["name", "kind", "tags", "deprecated", "location", "containerName"] false
  let name ← required? fields "name" asText?
  let kind ← required? fields "kind" SymbolKind.ofJson?
  let _ ← optional? fields "tags" readTags?
  let _ ← optional? fields "deprecated" asBool?
  let location ← required? fields "location" Location.ofJson?
  let _ ← optional? fields "containerName" asText?
  some (.node name kind location.range.start [])

/-- Reads a symbol of a tree that is nested at most `fuel` deep. -/
def Symbol.ofNested? (fuel : Nat) (v : Json) : Option Symbol :=
  match fuel with
  | 0 => none
  | fuel + 1 => do
    let fields ← v.record? ["name", "detail", "kind", "tags", "deprecated", "range",
      "selectionRange", "children"] false
    let name ← required? fields "name" asText?
    let _ ← optional? fields "detail" asText?
    let kind ← required? fields "kind" SymbolKind.ofJson?
    let _ ← optional? fields "tags" readTags?
    let _ ← optional? fields "deprecated" asBool?
    let _ ← required? fields "range" Range.ofJson?
    let selection ← required? fields "selectionRange" Range.ofJson?
    let children ← optional? fields "children" (Json.list? (Symbol.ofNested? fuel))
    some (.node name kind selection.start (children.getD []))

/-- The form in which a server gave an outline. -/
inductive OutlineShape where
  | flat
  | nested
deriving DecidableEq, Repr

/-- An outline as a server gave it. -/
structure Outline where
  shape : OutlineShape
  symbols : List Symbol
deriving Repr

/-- Reads an outline that is there. -/
def Outline.ofAnswer? (v : Json) : Option Outline :=
  match Json.list? Symbol.ofFlat? v with
  | some symbols => some ⟨.flat, symbols⟩
  | none => (Json.list? (Symbol.ofNested? v.depth) v).map fun symbols => ⟨.nested, symbols⟩

/-- Reads the answer to an outline query: an outline, or null if the server has none. -/
def Outline.ofJson? (v : Json) : Option (Option Outline) := nullable? Outline.ofAnswer? v

end DeadSymbols
