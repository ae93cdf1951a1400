import DeadSymbols.Config.Decode
import DeadSymbols.Yaml.Node
import DeadSymbols.Yaml.Number

/-!
# Values in YAML

* `Yaml.form`: YAML as a notation for configurations.
* `Yaml.config?`: the configuration that a text holds.
-/

namespace DeadSymbols.Yaml

/-- The tag of a basic type. -/
def basicTag (name : String) : String := "tag:yaml.org,2002:" ++ name

/-- A node of a document at some depth. -/
structure Place where
  document : Document
  node : Node
  /-- How many levels of containers may still be entered. -/
  depth : Nat

/-- How deep containers may be nested. -/
def maxDepth : Nat := 128

/-- How many aliases may be followed for each event of a document. -/
def aliasesPerEvent : Nat := 100

/-- What a word stands for. -/
inductive Word where
  | value (v : Json)
  /-- A whole number that is too large. -/
  | tooLarge
  /-- Nothing but the word itself. -/
  | word

/-- The whole number that a word stands for. It is too large beyond 64 bits, and no whole number
at all beyond 128. -/
def Word.ofInteger (s : String) : Word :=
  match integer? s with
  | some n =>
    if -0x8000000000000000 ≤ n && n < 0x10000000000000000 then .value (.integer n)
    else if -0x80000000000000000000000000000000 ≤ n && n < 0x100000000000000000000000000000000 then
      .tooLarge
    else .word
  | none => .word

/-- The number with a fraction that a word stands for. JSON has no unbounded numbers. -/
def realValue? (s : String) : Option Json :=
  if isUnbounded s then some .null else (real? s).map .real

/-- What a word stands for. -/
def plainValue? (s : String) : Option Json :=
  if s.isEmpty || isNull s then some .null
  else
    match bool? s with
    | some b => some (.bool b)
    | none =>
      match Word.ofInteger s with
      | .value v => some v
      | .tooLarge => none
      | .word =>
        if isZeroPadded s.toList then some (.text s) else some ((realValue? s).getD (.text s))

/-- The value of a scalar. A tag of a basic type has to fit, any other makes it a text. -/
def scalarValue? (tag : Option String) (style : Style) (s : String) : Option Json :=
  match tag with
  | none => if style == .plain then plainValue? s else some (.text s)
  | some t =>
    if t.toList.head? == some '!' then none
    else if t == basicTag "bool" then (bool? s).map .bool
    else if t == basicTag "int" then
      match Word.ofInteger s with
      | .value v => some v
      | _ => none
    else if t == basicTag "float" then realValue? s
    else if t == basicTag "null" then (if isNull s then some .null else none)
    else some (.text s)

/-- Whether a tag is one of a program's own. -/
def isLocalTag (tag : Option String) : Bool := tag.any fun t => t.toList.head? == some '!'

/-- Reads values one after another, each with the number of aliases that may still be followed. -/
def readEach {α β : Type} (read : α → Nat → Option (β × Nat)) :
    List α → Nat → Option (List β × Nat)
  | [], budget => some ([], budget)
  | a :: rest, budget =>
    match read a budget with
    | none => none
    | some (b, budget) => (readEach read rest budget).map fun (bs, budget) => (b :: bs, budget)

/-- Follows an alias, if the node is one and the budget allows it. -/
def follow? (d : Document) (n : Node) (budget : Nat) : Option (Node × Nat) :=
  match n, budget with
  | .alias _, 0 => none
  | .alias _, budget + 1 => (d.resolve n).map fun n => (n, budget)
  | _, _ => some (n, budget)

/-- The text of a key. -/
def keyText? (d : Document) (n : Node) (budget : Nat) : Option (String × Nat) :=
  match follow? d n budget with
  | some (.scalar _ _ s, budget) => some (s, budget)
  | _ => none

/-- The value of a node; `depth` levels of containers may be entered. -/
def value? (d : Document) : Nat → Node → Nat → Option (Json × Nat)
  | depth, n, budget =>
    match follow? d n budget with
    | none => none
    | some (.alias _, _) => none
    | some (.scalar tag style s, budget) => (scalarValue? tag style s).map fun v => (v, budget)
    | some (.sequence tag items, budget) =>
      match depth with
      | 0 => none
      | depth + 1 =>
        if isLocalTag tag then none
        else (readEach (value? d depth) items budget).map fun (vs, budget) => (.array vs, budget)
    | some (.mapping tag pairs, budget) =>
      match depth with
      | 0 => none
      | depth + 1 =>
        let pair (p : Node × Node) (budget : Nat) : Option ((String × Json) × Nat) :=
          match keyText? d p.1 budget with
          | none => none
          | some (key, budget) => (value? d depth p.2 budget).map fun (v, budget) => ((key, v), budget)
        if isLocalTag tag then none
        else (readEach pair pairs budget).map fun (ms, budget) => (.object ms, budget)

namespace Place

/-- The node, or the one that it stands for. -/
def target? (p : Place) : Option Node := p.document.resolve p.node

/-- A node inside of this one. -/
def inside (p : Place) (n : Node) : Place := ⟨p.document, n, p.depth - 1⟩

/-- The text of a scalar. -/
def text? (p : Place) : Option String :=
  match p.target? with
  | some (.scalar _ _ s) => some s
  | _ => none

/-- The word of a scalar that may stand for a value of a basic type: one without quotes, or a
literal block with the tag of the type. -/
def word? (type : String) (p : Place) : Option String :=
  match p.target? with
  | some (.scalar tag style s) =>
    if style == .plain || (style == .literal && tag == some (basicTag type)) then some s else none
  | _ => none

/-- The items of a sequence; a missing one has none. -/
def items? (p : Place) : Option (List Place) :=
  match p.target? with
  | some (.sequence _ items) => if p.depth == 0 then none else some (items.map p.inside)
  | some (.scalar _ _ "") => some []
  | _ => none

/-- The fields of a mapping that are known; a missing mapping has none. No field may be there
twice. -/
def fields? (names : List String) (p : Place) : Option (List (String × Place)) :=
  match p.target? with
  | some (.mapping _ pairs) =>
    if p.depth == 0 then none
    else
      let named? := pairs.mapM fun (key, v) => (p.inside key).text?.map fun k => (k, p.inside v)
      named?.bind fun named =>
        let known := named.filter fun m => names.contains m.1
        if names.all fun n => (known.filter (·.1 == n)).length ≤ 1 then some known else none
  | some (.scalar _ _ "") => some []
  | _ => none

/-- The place, unless nothing is there. -/
def present? (p : Place) : Option (Option Place) :=
  match p.target? with
  | some (.scalar tag style s) =>
    if style != .plain then some (some p)
    else if tag == some (basicTag "null") then (if isNull s then some none else none)
    else if tag.isSome then some (some p)
    else some (if s.isEmpty || isNull s then none else some p)
  | some _ => some (some p)
  | none => none

/-- Any value. -/
def any? (p : Place) : Option Json :=
  (value? p.document p.depth p.node (aliasesPerEvent * p.document.events)).map fun r => r.1.normal

end Place

/-- YAML as a notation. A record is a mapping, and whatever is missing is empty. -/
def form : ValueForm Place where
  record? := Place.fields?
  list? := Place.items?
  text? := Place.text?
  flag? p := (p.word? "bool").bind bool?
  count? p := ((p.word? "int").bind natural?).bind fun n =>
    if n ≤ Text.maxUInt64 then some n else none
  optional? := Place.present?
  any? := Place.any?

/-- The configuration that a text holds. -/
def config? (s : String) : Option Config := do
  let d ← Document.ofTokens? (← tokens? s)
  Config.read? form ⟨d, d.root.getD Node.missing, maxDepth⟩

end DeadSymbols.Yaml
