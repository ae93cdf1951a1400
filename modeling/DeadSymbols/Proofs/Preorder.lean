import DeadSymbols.Scan.Walk
import DeadSymbols.Service.Table

/-!
# Walks visit outlines in preorder

The stack of a walk is the part of the outline that is still to be visited. So a walk asks about
the symbols of the outline in preorder, those left out that are private or inside a private symbol.

* `Config.queried`: the symbols of an outline whose references are counted, in preorder.
* `walk_eq`: a walk over any stack is one round of queries about those symbols.
* `walkDocument_preorder`: the queries, the findings and the end of the walk of a document.
-/

namespace DeadSymbols

mutual

/-- A symbol and the symbols inside it in preorder, each with the symbols around it. -/
def Symbol.preorder (around : List Symbol) : Symbol → List (Symbol × List Symbol)
  | .node n k a cs => (.node n k a cs, around) :: Symbol.preorderAll (.node n k a cs :: around) cs
termination_by structural s => s

/-- The symbols of a forest in preorder, each with the symbols around it, the nearest first. -/
def Symbol.preorderAll (around : List Symbol) : List Symbol → List (Symbol × List Symbol)
  | [] => []
  | s :: rest => s.preorder around ++ Symbol.preorderAll around rest
termination_by structural ss => ss

end

mutual

/-- A symbol without the private symbols inside it. -/
def Symbol.visible (config : Config) : Symbol → Symbol
  | .node n k a cs => .node n k a (Symbol.visibleAll config cs)
termination_by structural s => s

/-- A forest without its private symbols and all that is inside them. -/
def Symbol.visibleAll (config : Config) : List Symbol → List Symbol
  | [] => []
  | s :: rest =>
    if config.isPrivate s.name then Symbol.visibleAll config rest
    else s.visible config :: Symbol.visibleAll config rest
termination_by structural ss => ss

end

namespace Config

/-- Whether the references to a symbol are counted, given the symbols around it. -/
def isQueried (config : Config) (place : Symbol × List Symbol) : Bool :=
  config.isTargetKind place.1.kind.name &&
    !(place.1 :: place.2).any fun s => config.isPrivate s.name

/-- The symbols of an outline whose references are counted: those of a target kind that are not
private and not inside a private symbol, in preorder. -/
def queried (config : Config) (outline : List Symbol) : List Symbol :=
  ((Symbol.preorderAll [] outline).filter config.isQueried).map (·.1)

end Config

variable {config : Config} {σ : Type}

/-! ## The symbols that are asked about -/

@[simp] theorem Symbol.name_visible (s : Symbol) : (s.visible config).name = s.name := by
  cases s; rfl

@[simp] theorem Symbol.kind_visible (s : Symbol) : (s.visible config).kind = s.kind := by
  cases s; rfl

@[simp] theorem Symbol.anchor_visible (s : Symbol) : (s.visible config).anchor = s.anchor := by
  cases s; rfl

@[simp] theorem Symbol.children_visible (s : Symbol) :
    (s.visible config).children = Symbol.visibleAll config s.children := by
  cases s; rfl

theorem Symbol.preorder_eq (around : List Symbol) (s : Symbol) :
    s.preorder around = (s, around) :: Symbol.preorderAll (s :: around) s.children := by
  cases s; rfl

theorem Symbol.preorderAll_append (around xs ys : List Symbol) :
    Symbol.preorderAll around (xs ++ ys) =
      Symbol.preorderAll around xs ++ Symbol.preorderAll around ys := by
  induction xs with
  | nil => rfl
  | cons x xs ih => simp only [List.cons_append, Symbol.preorderAll, ih, List.append_assoc]

/-- Induction over outlines: from the children of a symbol and the symbols after it. -/
@[elab_as_elim]
theorem Symbol.outline_induction {P : List Symbol → Prop} (nil : P [])
    (cons : ∀ s rest, P s.children → P rest → P (s :: rest)) (outline : List Symbol) :
    P outline := by
  induction hw : Symbol.weightAll outline using Nat.strongRecOn generalizing outline with
  | _ w ih =>
    cases outline with
    | nil => exact nil
    | cons s rest =>
      have hlt : Symbol.weightAll s.children < w ∧ Symbol.weightAll rest < w := by
        rw [← hw, Symbol.weightAll, Symbol.weight_eq]; omega
      exact cons s rest (ih _ hlt.1 _ rfl) (ih _ hlt.2 _ rfl)

namespace Config

/-- The symbols that are asked about in an outline inside other symbols. -/
def queriedBelow (config : Config) (around outline : List Symbol) : List Symbol :=
  ((Symbol.preorderAll around outline).filter config.isQueried).map (·.1)

theorem queriedBelow_cons (around : List Symbol) (s : Symbol) (rest : List Symbol) :
    config.queriedBelow around (s :: rest) =
      (if config.isQueried (s, around) then [s] else []) ++
        config.queriedBelow (s :: around) s.children ++ config.queriedBelow around rest := by
  unfold queriedBelow
  rw [Symbol.preorderAll, Symbol.preorder_eq, List.filter_append, List.map_append,
    List.filter_cons]
  split <;> simp

/-- Of the symbols around an outline it only counts whether one of them is private. -/
theorem queriedBelow_eq (outline : List Symbol) : ∀ around : List Symbol,
    config.queriedBelow around outline =
      if around.any (fun s => config.isPrivate s.name) then [] else config.queried outline := by
  induction outline using Symbol.outline_induction with
  | nil => intro around; simp [queriedBelow, queried, Symbol.preorderAll]
  | cons s rest ihc ihr =>
    intro around
    have hcons : config.queried (s :: rest) = config.queriedBelow [] (s :: rest) := rfl
    rw [hcons, queriedBelow_cons, queriedBelow_cons, ihc, ihc, ihr, ihr]
    simp only [isQueried, List.any_cons, List.any_nil]
    -- inside a private symbol nothing is asked about
    rcases Bool.eq_false_or_eq_true (around.any fun s => config.isPrivate s.name) with ha | ha
    · simp [ha]
    · simp [ha]

theorem queried_append (xs ys : List Symbol) :
    config.queried (xs ++ ys) = config.queried xs ++ config.queried ys := by
  simp only [queried, Symbol.preorderAll_append, List.filter_append, List.map_append]

/-- Which symbols are asked about, symbol by symbol. -/
theorem queried_cons (s : Symbol) (rest : List Symbol) :
    config.queried (s :: rest) =
      match config.visit s with
      | .skip => config.queried rest
      | .descend => config.queried (s.children ++ rest)
      | .check => s :: config.queried (s.children ++ rest) := by
  have h : config.queried (s :: rest) = config.queriedBelow [] (s :: rest) := rfl
  rw [h, queriedBelow_cons, queriedBelow_eq, queriedBelow_eq, queried_append, visit]
  simp only [isQueried, List.any_cons, List.any_nil]
  -- private, of a target kind, of another kind
  by_cases hp : config.isPrivate s.name = true
  · simp [hp]
  · by_cases ht : config.isTargetKind s.kind.name = true <;> simp [hp, ht]

/-- What is inside private symbols makes no difference to the symbols that are asked about. -/
theorem queried_visibleAll (outline : List Symbol) :
    config.queried (Symbol.visibleAll config outline) =
      (config.queried outline).map (Symbol.visible config) := by
  induction outline using Symbol.outline_induction with
  | nil => rfl
  | cons s rest ihc ihr =>
    rw [Symbol.visibleAll, queried_cons s rest]
    have hv : config.visit (s.visible config) = config.visit s := by simp [visit]
    by_cases hp : config.isPrivate s.name = true
    · have hs : config.visit s = .skip := by simp [visit, hp]
      simp only [hp, hs, if_true, ihr]
    · rw [if_neg hp, queried_cons, hv, Symbol.children_visible]
      cases hs : config.visit s with
      | skip => simp only [visit, hp, Bool.false_eq_true, if_false] at hs; split at hs <;> cases hs
      | descend => simp [queried_append, ihc, ihr]
      | check => simp [queried_append, ihc, ihr]

end Config

/-! ## Rounds of queries -/

/-- The answers to reference queries that are made one after another, up to the first fault. -/
structure Round (σ : Type) where
  /-- The counts in the answers that are no fault. -/
  counts : List (Option Nat)
  /-- The fault that ended the round, if one did. -/
  fault : Option Fault
  state : σ

/-- Asks a service for the references to the symbols at some places of a document, one after
another, until it answers with a fault. -/
def Service.askAll (service : Service σ) (document : Document) : List Position → σ → Round σ
  | [], state => ⟨[], none, state⟩
  | place :: rest, state =>
    match service.references document place state with
    | (.error fault, state) => ⟨[], some fault, state⟩
    | (.ok count, state) =>
      let round := service.askAll document rest state
      { round with counts := count :: round.counts }

/-- Nobody has asked to stop before queries about some places, between them or after them. -/
def Service.Undisturbed (service : Service σ) (document : Document) (places : List Position)
    (state : σ) : Prop :=
  ∀ n, service.cancelled (service.askAll document (places.take n) state).state = false

/-- The findings that a round of queries about some symbols makes. -/
def Config.reported (config : Config) (file : String) (asked : List Symbol)
    (counts : List (Option Nat)) : List Finding :=
  (asked.zip counts).flatMap fun p => config.findings p.1 file p.2

/-- How a round of queries ends the walk that makes it. -/
def Round.status (round : Round σ) : Except Fault FileStatus :=
  match round.fault with
  | none => .ok .scanned
  | some fault => .error fault

theorem Round.status_of_none {round : Round σ} (h : round.fault = none) :
    round.status = .ok .scanned := by rw [Round.status, h]

theorem Round.status_of_some {round : Round σ} {fault : Fault} (h : round.fault = some fault) :
    round.status = .error fault := by rw [Round.status, h]

variable {service : Service σ} {document : Document}

theorem Service.Undisturbed.start {places : List Position} {state : σ}
    (h : service.Undisturbed document places state) : service.cancelled state = false := h 0

theorem Service.Undisturbed.tail {place : Position} {rest : List Position} {state after : σ}
    {count : Option Nat} (ha : service.references document place state = (.ok count, after))
    (h : service.Undisturbed document (place :: rest) state) :
    service.Undisturbed document rest after := by
  intro n
  have := h (n + 1)
  simpa only [List.take_succ_cons, Service.askAll, ha] using this

/-! ## Steps of walks -/

theorem walk_stop {symbol : Symbol} {stack : List Symbol} {state : σ}
    (hc : service.cancelled state = true) :
    walk config service document (symbol :: stack) state = .ended (.ok .interrupted) state := by
  rw [walk, if_pos hc]

theorem walk_skip {symbol : Symbol} {stack : List Symbol} {state : σ}
    (hc : service.cancelled state = false) (hv : config.visit symbol = .skip) :
    walk config service document (symbol :: stack) state =
      walk config service document stack state := by
  rw [walk, if_neg (by simp [hc]), hv]

theorem walk_descend {symbol : Symbol} {stack : List Symbol} {state : σ}
    (hc : service.cancelled state = false) (hv : config.visit symbol = .descend) :
    walk config service document (symbol :: stack) state =
      walk config service document (symbol.children ++ stack) state := by
  rw [walk, if_neg (by simp [hc]), hv]

theorem walk_fault {symbol : Symbol} {stack : List Symbol} {state after : σ} {fault : Fault}
    (hc : service.cancelled state = false) (hv : config.visit symbol = .check)
    (ha : service.references document symbol.anchor state = (.error fault, after)) :
    walk config service document (symbol :: stack) state =
      (FileScan.ended (.error fault) after).after []
        [.references document.path symbol.anchor] := by
  rw [walk, if_neg (by simp [hc]), hv, ha]

theorem walk_count {symbol : Symbol} {stack : List Symbol} {state after : σ} {count : Option Nat}
    (hc : service.cancelled state = false) (hv : config.visit symbol = .check)
    (ha : service.references document symbol.anchor state = (.ok count, after)) :
    walk config service document (symbol :: stack) state =
      (walk config service document (symbol.children ++ stack) after).after
        (config.findings symbol document.path count)
        [.references document.path symbol.anchor] := by
  rw [walk, if_neg (by simp [hc]), hv, ha]

/-! ## Walks as rounds -/

/-- A round without a fault has an answer to every query. -/
theorem Service.length_askAll (service : Service σ) (document : Document)
    (places : List Position) (state : σ) :
    let round := service.askAll document places state
    (round.fault = none → round.counts.length = places.length) ∧
      ∀ fault, round.fault = some fault → round.counts.length < places.length := by
  induction places generalizing state with
  | nil => simp [Service.askAll]
  | cons place rest ih =>
    rcases ha : service.references document place state with ⟨fault | count, after⟩
    · simp [Service.askAll, ha]
    · obtain ⟨h1, h2⟩ := ih after
      simp only [Service.askAll, ha, List.length_cons]
      exact ⟨fun h => by rw [h1 h], fun fault h => Nat.succ_lt_succ (h2 fault h)⟩

/-- **A walk is a round of queries.** As long as nobody asks to stop, a walk over any stack makes
one query for each symbol on the stack or inside it that is asked about, in preorder. -/
theorem walk_eq (stack : List Symbol) (state : σ)
    (hquiet : service.Undisturbed document ((config.queried stack).map Symbol.anchor) state) :
    let round := service.askAll document ((config.queried stack).map Symbol.anchor) state
    walk config service document stack state =
      { status := round.status
        findings := config.reported document.path (config.queried stack) round.counts
        events := ((config.queried stack).take (round.counts.length + 1)).map fun s =>
          .references document.path s.anchor
        state := round.state } := by
  fun_induction walk config service document stack state with
  | case1 => rfl
  | case2 symbol stack state hc => exact absurd hc (by simp [hquiet.start])
  | case3 symbol stack state hc hv ih =>
    rw [Config.queried_cons, hv] at hquiet ⊢
    exact ih hquiet
  | case4 symbol stack state hc hv ih =>
    rw [Config.queried_cons, hv] at hquiet ⊢
    exact ih hquiet
  | case5 symbol stack state hc hv asked fault after ha =>
    rw [Config.queried_cons, hv]
    simp [Service.askAll, ha, FileScan.after, FileScan.ended, Round.status, Config.reported, asked]
  | case6 symbol stack state hc hv asked count after ha ih =>
    rw [Config.queried_cons, hv] at hquiet ⊢
    rw [ih (hquiet.tail ha)]
    simp [Service.askAll, ha, FileScan.after, Round.status, Config.reported, asked]

theorem Config.reported_eq (file : String) (asked : List Symbol) (counts : List (Option Nat)) :
    config.reported file asked counts =
      ((asked.zip counts).filter fun p => p.2.getD 0 ≤ config.scan.maxReferences).map fun p =>
        ⟨p.1.name, file, p.1.anchor.line + 1, p.1.kind.name⟩ := by
  unfold Config.reported
  induction asked.zip counts with
  | nil => rfl
  | cons p rest ih =>
    rw [List.flatMap_cons, List.filter_cons, ih]
    by_cases h : p.2.getD 0 ≤ config.scan.maxReferences <;>
      simp [Config.findings, Config.isUnreferenced, Finding.ofSymbol, h]

/-- Of the symbols that are asked about only the name, the kind and the place count. -/
theorem Config.reported_visible (file : String) (asked : List Symbol)
    (counts : List (Option Nat)) :
    config.reported file (asked.map (Symbol.visible config)) counts =
      config.reported file asked counts := by
  simp [Config.reported_eq, List.zip_map_left, List.filter_map, Function.comp_def]

/-- What is inside private symbols makes no difference to a walk that nobody stops. -/
theorem walk_visibleAll (stack : List Symbol) (state : σ)
    (hquiet : service.Undisturbed document ((config.queried stack).map Symbol.anchor) state) :
    walk config service document (Symbol.visibleAll config stack) state =
      walk config service document stack state := by
  have hplaces : (config.queried (Symbol.visibleAll config stack)).map Symbol.anchor =
      (config.queried stack).map Symbol.anchor := by
    simp [Config.queried_visibleAll, Function.comp_def]
  rw [walk_eq stack state hquiet, walk_eq _ state (by rw [hplaces]; exact hquiet), hplaces,
    Config.queried_visibleAll, Config.reported_visible]
  simp [List.map_take, Function.comp_def]

theorem walkDocument_eq {outline : List Symbol} {state opened : σ}
    (houtline : service.documentSymbols document state = (.ok (some outline), opened))
    (hquiet : service.Undisturbed document ((config.queried outline).map Symbol.anchor) opened) :
    let round := service.askAll document ((config.queried outline).map Symbol.anchor) opened
    walkDocument config service document state =
      { status := round.status
        findings := config.reported document.path (config.queried outline) round.counts
        events := .documentSymbols document.path ::
          ((config.queried outline).take (round.counts.length + 1)).map fun s =>
            .references document.path s.anchor
        state := round.state } := by
  simp only [walkDocument, houtline, walk_eq outline opened hquiet]
  rfl

/-- A table that never asks to stop does not disturb a walk. -/
theorem table_undisturbed (answers : String → FileAnswers) (releases : Bool) (document : Document)
    (places : List Position) (calls : CallCount) (hnever : calls.cancelAt = none)
    (hrun : calls.cancelled = false) :
    (table answers releases).Undisturbed document places calls := by
  intro n
  generalize places.take n = asked
  induction asked generalizing calls with
  | nil => exact hrun
  | cons place rest ih =>
    have hnext : calls.next.cancelAt = none ∧ calls.next.cancelled = false := by
      simp [CallCount.next, hnever, hrun]
    rcases ha : (answers document.path).references place with fault | count
    · simp only [Service.askAll, table, ha]; exact hnext.2
    · simp only [Service.askAll, table, ha]; exact ih calls.next hnext.1 hnext.2

/-- **The walk of a document.** As long as nobody asks to stop, the symbols of a target kind that
are not private and not inside a private symbol are asked about in preorder, each once. Without a
fault the file is scanned, and the findings are those symbols whose count is within the limit. A
fault ends the walk after the query that it answers; the findings before it stay. What is inside
private symbols makes no difference. -/
theorem walkDocument_preorder (config : Config) (service : Service σ) (document : Document)
    (outline : List Symbol) (state opened : σ)
    (houtline : service.documentSymbols document state = (.ok (some outline), opened))
    (hquiet : service.Undisturbed document ((config.queried outline).map Symbol.anchor) opened) :
    let asked := config.queried outline
    let round := service.askAll document (asked.map Symbol.anchor) opened
    let scan := walkDocument config service document state
    let queries (n : Nat) : List Event := .documentSymbols document.path ::
      (asked.take n).map fun s => .references document.path s.anchor
    scan.findings =
        ((asked.zip round.counts).filter fun p => p.2.getD 0 ≤ config.scan.maxReferences).map
          (fun p => ⟨p.1.name, document.path, p.1.anchor.line + 1, p.1.kind.name⟩) ∧
      scan.state = round.state ∧
      (round.fault = none → round.counts.length = asked.length ∧
        scan.status = .ok .scanned ∧ scan.events = queries asked.length) ∧
      (∀ fault, round.fault = some fault → round.counts.length < asked.length ∧
        scan.status = .error fault ∧ scan.events = queries (round.counts.length + 1)) ∧
      ∀ other, Symbol.visibleAll config other = Symbol.visibleAll config outline →
        walk config service document other opened = walk config service document outline opened := by
  intro asked round scan queries
  have hscan := walkDocument_eq houtline hquiet
  obtain ⟨hall, hfault⟩ := service.length_askAll document (asked.map Symbol.anchor) opened
  simp only [List.length_map] at hall hfault
  refine ⟨?_, congrArg FileScan.state hscan, ?_, ?_, ?_⟩
  · rw [← Config.reported_eq]
    exact congrArg FileScan.findings hscan
  · intro hnone
    refine ⟨hall hnone, (congrArg FileScan.status hscan).trans (Round.status_of_none hnone), ?_⟩
    have hevents := congrArg FileScan.events hscan
    rwa [hall hnone, List.take_of_length_le (Nat.le_succ _), ← asked.take_length]
      at hevents
  · intro fault hf
    exact ⟨hfault fault hf, (congrArg FileScan.status hscan).trans (Round.status_of_some hf),
      congrArg FileScan.events hscan⟩
  · intro other ho
    have hplaces : (config.queried other).map Symbol.anchor = asked.map Symbol.anchor := by
      have := congrArg (fun o => (config.queried o).map Symbol.anchor) ho
      simpa [Config.queried_visibleAll, Function.comp_def] using this
    rw [← walk_visibleAll outline opened hquiet, ← ho,
      walk_visibleAll other opened (by rw [hplaces]; exact hquiet)]

/-- An outline with a variable inside a method, a field inside a private method, and a field. -/
def nestedOutline : List Symbol :=
  [.node "Home" ⟨5⟩ ⟨0, 6⟩ [
      .node "build" ⟨6⟩ ⟨1, 2⟩ [.node "x" ⟨13⟩ ⟨2, 4⟩ []],
      .node "_hide" ⟨6⟩ ⟨3, 2⟩ [.node "y" ⟨8⟩ ⟨4, 4⟩ []]],
    .node "z" ⟨8⟩ ⟨5, 0⟩ []]

/-- Answers about `nestedOutline`, a fault about the variable among them. -/
def nestedAnswers : FileAnswers where
  outline := .ok (some nestedOutline)
  references place := if place.line == 2 then .error .closed else .ok (some 1)

/-- The method is reported, the fault ends the walk at the variable, and the field at the end is
never asked about. -/
theorem walkDocument_preorder_nested :
    let document : Document := ⟨"/a.dart", "file:///a.dart"⟩
    let scan := walkDocument {} (table (fun _ => nestedAnswers) true) document {}
    (table (fun _ => nestedAnswers) true).Undisturbed document
        ((Config.queried {} nestedOutline).map Symbol.anchor) { made := 1 } ∧
      scan.findings = [⟨"build", "/a.dart", 2, "method"⟩] ∧ scan.status = .error .closed ∧
      scan.events = [.documentSymbols "/a.dart", .references "/a.dart" ⟨1, 2⟩,
        .references "/a.dart" ⟨2, 4⟩] := by
  intro document scan
  have hquiet := table_undisturbed (fun _ => nestedAnswers) true document
    ((Config.queried {} nestedOutline).map Symbol.anchor) { made := 1 } rfl rfl
  obtain ⟨hfound, -, -, hfault, -⟩ := walkDocument_preorder {} (table (fun _ => nestedAnswers) true)
    document nestedOutline {} { made := 1 } rfl hquiet
  obtain ⟨-, hstatus, hevents⟩ := hfault .closed (by rfl)
  exact ⟨hquiet, hfound.trans (by decide +kernel), hstatus, hevents.trans (by decide +kernel)⟩

end DeadSymbols
