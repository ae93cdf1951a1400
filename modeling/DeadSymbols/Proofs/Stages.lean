import DeadSymbols.CommandLine.Run
import DeadSymbols.Proofs.Folders
import DeadSymbols.Session.Stream

/-!
# The stages of a run

A run first finds out what is to be scanned, and then carries out the plan. Each of the two has only
a few ends, and all but the last one leave every file as it was.

* `Plan.ofOptions_planned`: the ends of the first stage.
* `Planned.ok_iff`: what has to be established before a server is started.
* `Run.ofPlan_carried`: the ends of the second stage.
* `Run.ofOptions_of_stop`, `Run.ofOptions_of_plan`: whole runs.
-/

namespace DeadSymbols

variable {σ : Type}

/-- What a client is made of, if its server starts. -/
theorem Client.start_ok {launcher : Launcher σ} {files : FileTree} {processId : Nat}
    {config : ServerConfig} {root : String} {client : Client σ} {s : Session σ}
    (h : Client.start launcher files processId config root = .ok (client, s)) :
    launcher.start config.command root = .ok s ∧ client.peer = launcher.peer ∧
      client.files = files ∧ client.requestLimit = config.requestTimeout.map (· * 1000) := by
  unfold Client.start at h
  split at h
  · cases h
  · split at h
    · cases h
    · cases h
      exact ⟨‹_›, rfl, rfl, rfl⟩

namespace CommandLine

variable {picker : Picker} {tree : FileTree} {options : Options} {plan : Plan}

section Stages

variable {α β : Type}

theorem Stage.run_pure (a : α) (tree : FileTree) : (pure a : Stage α).run tree = (a, tree) := rfl

theorem Stage.run_bind (stage : Stage α) (next : α → Stage β) (tree : FileTree) :
    (stage >>= next).run tree = (next (stage.run tree).1).run (stage.run tree).2 := rfl

/-- Reading the files does not change them. -/
theorem Stage.bind_reading (read : FileTree → α) (next : α → Stage β) (tree : FileTree) :
    (reading read >>= next).run tree = (next (read tree)).run tree := rfl

/-- What comes after the delivery of a report finds the files that it left. -/
theorem Run.bind_delivering (format : ReportFormat) (options : ReportOptions) (outcome : Outcome)
    (next : Delivery → Stage β) (tree : FileTree) :
    (delivering format options outcome >>= next).run tree =
      (next (deliver format options outcome tree)).run
        (deliver format options outcome tree).files := rfl

end Stages

/-! ## What is to be scanned -/

/-- The ends of the search for what is to be scanned, with the notices on the way. -/
inductive Planned (picker : Picker) (tree : FileTree) (options : Options) :
    Except Stop Plan × List Notice → Prop where
  | unsettled {stop : Stop} (hsettled : settle tree options = .error stop) :
    Planned picker tree options (.error stop, [])
  | unpicked {root : String} {config : Config} {format : ReportFormat} {message : String}
    (hsettled : settle tree options = .ok (root, config, format))
    (hpicked : picker.folders tree root options.folders = .error message) :
    Planned picker tree options (.error (.picking message), [])
  | noFolders {root : String} {config : Config} {format : ReportFormat}
    (hsettled : settle tree options = .ok (root, config, format))
    (hpicked : picker.folders tree root options.folders = .ok []) :
    Planned picker tree options (.error .noFolders, [])
  | pattern {root : String} {config : Config} {format : ReportFormat} {folders : List String}
    {fault : InvalidPattern} {notices : List Notice}
    (hsettled : settle tree options = .ok (root, config, format))
    (hpicked : picker.folders tree root options.folders = .ok folders) (hfolders : folders ≠ [])
    (hfound : findFiles config tree folders = (.error fault, notices)) :
    Planned picker tree options (.error (.pattern fault), notices)
  | noFiles {root : String} {config : Config} {format : ReportFormat} {folders : List String}
    {notices : List Notice} (hsettled : settle tree options = .ok (root, config, format))
    (hpicked : picker.folders tree root options.folders = .ok folders) (hfolders : folders ≠ [])
    (hfound : findFiles config tree folders = (.ok [], notices)) :
    Planned picker tree options (.error (.noFiles config.label), notices)
  | plan {plan : Plan} {folders : List String} {notices : List Notice}
    (hsettled : settle tree options = .ok (plan.root, plan.config, plan.format))
    (hpicked : picker.folders tree plan.root options.folders = .ok folders)
    (hfolders : folders ≠ [])
    (hfound : findFiles plan.config tree folders = (.ok plan.files, notices))
    (hfiles : plan.files ≠ []) :
    Planned picker tree options (.ok plan, notices)

/-- **The search for what is to be scanned** leaves all files as they are. -/
theorem Plan.ofOptions_planned (picker : Picker) (options : Options) (tree : FileTree) :
    ∃ found, (Plan.ofOptions picker options).run tree = (found, tree) ∧
      Planned picker tree options found := by
  rw [Plan.ofOptions, Stage.bind_reading]
  cases hsettled : settle tree options with
  | error stop => exact ⟨_, Stage.run_pure _ tree, .unsettled hsettled⟩
  | ok settled =>
    obtain ⟨root, config, format⟩ := settled
    simp only [Stage.bind_reading]
    cases hpicked : picker.folders tree root options.folders with
    | error message => exact ⟨_, Stage.run_pure _ tree, .unpicked hsettled hpicked⟩
    | ok folders =>
      dsimp only
      cases folders with
      | nil =>
        rw [List.isEmpty_nil, if_pos rfl]
        exact ⟨_, Stage.run_pure _ tree, .noFolders hsettled hpicked⟩
      | cons folder more =>
        have hfolders : folder :: more ≠ [] := List.cons_ne_nil folder more
        rw [List.isEmpty_cons, if_neg Bool.false_ne_true, Stage.bind_reading]
        rcases hfound : findFiles config tree (folder :: more) with ⟨fault | files, notices⟩
        · exact ⟨_, Stage.run_pure _ tree, .pattern hsettled hpicked hfolders hfound⟩
        · dsimp only
          cases files with
          | nil =>
            rw [List.isEmpty_nil, if_pos rfl]
            exact ⟨_, Stage.run_pure _ tree, .noFiles hsettled hpicked hfolders hfound⟩
          | cons file rest =>
            rw [List.isEmpty_cons, if_neg Bool.false_ne_true]
            exact ⟨_, Stage.run_pure _ tree, .plan hsettled hpicked hfolders hfound
              (List.cons_ne_nil file rest)⟩

/-- What has to be established before a server is started. -/
structure IsEstablished (picker : Picker) (tree : FileTree) (options : Options) (plan : Plan) :
    Prop where
  settled : settle tree options = .ok (plan.root, plan.config, plan.format)
  patterns : ∀ pattern ∈ plan.config.exclude, IsExcludePattern pattern
  /-- There are folders, given or picked, with the files of the plan. -/
  found : ∃ folders, picker.folders tree plan.root options.folders = .ok folders ∧ folders ≠ [] ∧
    (findFiles plan.config tree folders).1 = .ok plan.files
  files : plan.files ≠ []

/-- What is established determines the plan. -/
theorem IsEstablished.unique {other : Plan} (h : IsEstablished picker tree options plan)
    (h' : IsEstablished picker tree options other) : other = plan := by
  obtain ⟨root, config, format, files⟩ := plan
  obtain ⟨root', config', format', files'⟩ := other
  obtain ⟨folders, hpicked, -, hfound⟩ := h.found
  obtain ⟨folders', hpicked', -, hfound'⟩ := h'.found
  have hsettled := h.settled.symm.trans h'.settled
  simp only [Except.ok.injEq, Prod.mk.injEq] at hsettled
  obtain ⟨rfl, rfl, rfl⟩ := hsettled
  obtain rfl := Except.ok.inj (hpicked.symm.trans hpicked')
  obtain rfl := Except.ok.inj (hfound.symm.trans hfound')
  rfl

theorem Planned.isEstablished {notices : List Notice}
    (h : Planned picker tree options (.ok plan, notices)) :
    IsEstablished picker tree options plan := by
  cases h with
  | plan hsettled hpicked hfolders hfound hfiles =>
    have hfound' : (findFiles plan.config tree _).1 = .ok plan.files := congrArg Prod.fst hfound
    exact ⟨hsettled, exists_excludeRules_iff.1 (exists_rules_of_ne_nil hfound' hfiles),
      ⟨_, hpicked, hfolders, hfound'⟩, hfiles⟩

/-- **A plan is made exactly of what is established.** -/
theorem Planned.ok_iff {result : Except Stop Plan} {notices : List Notice}
    (h : Planned picker tree options (result, notices)) :
    result = .ok plan ↔ IsEstablished picker tree options plan := by
  constructor
  · rintro rfl
    exact h.isEstablished
  · intro hplan
    obtain ⟨folders', hpicked', hfolders', hfound'⟩ := hplan.found
    cases h with
    | unsettled hsettled => cases hsettled.symm.trans hplan.settled
    | unpicked hsettled hpicked =>
      cases hsettled.symm.trans hplan.settled
      cases hpicked.symm.trans hpicked'
    | noFolders hsettled hpicked =>
      cases hsettled.symm.trans hplan.settled
      exact absurd (Except.ok.inj (hpicked'.symm.trans hpicked)) hfolders'
    | pattern hsettled hpicked hfolders hfound =>
      cases hsettled.symm.trans hplan.settled
      obtain rfl := Except.ok.inj (hpicked.symm.trans hpicked')
      rw [hfound] at hfound'
      cases hfound'
    | noFiles hsettled hpicked hfolders hfound =>
      cases hsettled.symm.trans hplan.settled
      obtain rfl := Except.ok.inj (hpicked.symm.trans hpicked')
      rw [hfound] at hfound'
      exact absurd (Except.ok.inj hfound').symm hplan.files
    | plan hsettled hpicked hfolders hfound hfiles =>
      have hother := (Planned.plan hsettled hpicked hfolders hfound hfiles).isEstablished
      exact congrArg Except.ok (hplan.unique hother)

/-! ## Plans that are carried out -/

/-- The ends of a run that carries out a plan, and the files that it leaves. -/
inductive Carried (launcher : Launcher σ) (processId : Nat) (quiet : Bool) (plan : Plan)
    (tree : FileTree) : Run σ × FileTree → Prop where
  | unstarted {fault : Fault}
    (hstart : Client.start launcher tree processId plan.config.server plan.root = .error fault) :
    Carried launcher processId quiet plan tree ({ conclusion := .stopped (.server fault) }, tree)
  | abandoned {client : Client σ} {s last : Session σ} {result : Except Fault Survey}
    (hstart : Client.start launcher tree processId plan.config.server plan.root = .ok (client, s))
    (hsurvey : client.survey plan.root plan.config plan.files s = (result, last))
    (hlast : last.isAbandoned = true) :
    Carried launcher processId quiet plan tree
      ({ conclusion := .abandoned, session := some last }, tree)
  | refused {client : Client σ} {s last : Session σ} {fault : Fault}
    (hstart : Client.start launcher tree processId plan.config.server plan.root = .ok (client, s))
    (hsurvey : client.survey plan.root plan.config plan.files s = (.error fault, last))
    (hlast : last.isAbandoned = false) :
    Carried launcher processId quiet plan tree
      ({ conclusion := .stopped (.server fault), session := some last }, tree)
  | reported {client : Client σ} {s last : Session σ} {survey : Survey} {delivery : Delivery}
    (hstart : Client.start launcher tree processId plan.config.server plan.root = .ok (client, s))
    (hsurvey : client.survey plan.root plan.config plan.files s = (.ok survey, last))
    (hlast : last.isAbandoned = false)
    (hdelivery : deliver plan.format
      ⟨plan.config.report.output, plan.config.report.logFile, quiet⟩ survey.outcome tree =
        delivery) :
    Carried launcher processId quiet plan tree
      ({ conclusion := .reported delivery
         notices := survey.warnings ++ delivery.notices
         session := some last }, delivery.files)

/-- **A run that carries out a plan** leaves all files as they are, but for those of its report. -/
theorem Run.ofPlan_carried (launcher : Launcher σ) (processId : Nat) (quiet : Bool) (plan : Plan)
    (tree : FileTree) : Carried launcher processId quiet plan tree
      ((Run.ofPlan launcher processId quiet plan).run tree) := by
  rw [Run.ofPlan, Stage.bind_reading]
  cases hstart : Client.start launcher tree processId plan.config.server plan.root with
  | error fault => exact Stage.run_pure _ tree ▸ .unstarted hstart
  | ok started =>
    obtain ⟨client, s⟩ := started
    have hclient : { client with files := tree } = client := by
      rw [← (Client.start_ok hstart).2.2.1]
    dsimp only
    rw [Stage.bind_reading, hclient]
    rcases hsurvey : client.survey plan.root plan.config plan.files s with ⟨result, last⟩
    dsimp only
    cases hlast : last.isAbandoned with
    | true =>
      rw [if_pos rfl, Stage.run_pure]
      exact .abandoned hstart hsurvey hlast
    | false =>
      rw [if_neg Bool.false_ne_true]
      cases result with
      | error fault =>
        dsimp only
        rw [Stage.run_pure]
        exact .refused hstart hsurvey hlast
      | ok survey =>
        dsimp only
        rw [Run.bind_delivering, Stage.run_pure]
        exact .reported hstart hsurvey hlast rfl

/-! ## Whole runs -/

namespace Run

variable {notices : List Notice}

/-- Without a plan the server plays no part. -/
theorem ofOptions_of_stop {stop : Stop}
    (h : (Plan.ofOptions picker options).run tree = ((.error stop, notices), tree))
    (launcher : Launcher σ) (processId : Nat) :
    (Run.ofOptions picker launcher processId options).run tree =
      ({ conclusion := .stopped stop, notices := notices }, tree) := by
  rw [Run.ofOptions, Stage.run_bind, h]
  exact Stage.run_pure _ tree

theorem ofOptions_of_plan
    (h : (Plan.ofOptions picker options).run tree = ((.ok plan, notices), tree))
    (launcher : Launcher σ) (processId : Nat) {run : Run σ} {left : FileTree}
    (hrun : (Run.ofPlan launcher processId options.quiet plan).run tree = (run, left)) :
    (Run.ofOptions picker launcher processId options).run tree =
      ({ run with notices := notices ++ run.notices }, left) := by
  rw [Run.ofOptions, Stage.run_bind, h]
  dsimp only
  rw [Stage.run_bind, hrun]
  exact Stage.run_pure _ left

/-- The run of a command line that asks for a scan. -/
theorem ofWordsAt_scan {words : List String} (h : Order.ofWords words = .ok (.scan options))
    {launcher : Launcher σ} {processId : Nat} {run : Run σ} {left : FileTree}
    (hrun : (Run.ofOptions picker launcher processId options).run tree = (run, left)) :
    Run.ofWordsAt picker launcher tree processId words = { run with left := some left } := by
  rw [Run.ofWordsAt, h]
  dsimp only
  rw [hrun]

end Run

/-! ## A project -/

/-- A project with one source file and a former report. -/
def projectTree : FileTree where
  root := .folder [("a.dart", .file (Text.encode "class A")),
    ("deadcode.toml", .file (Text.encode "exclude = []")),
    ("report.md", .file (Text.encode "former"))]
  current := []

/-- The answers to some requests, each of which says nothing. -/
def answers (n : Nat) : List Chunk :=
  (List.range n).map fun k => ⟨0, Frame.bytes (Message.answer (.integer (k + 1 : Nat)) .null)⟩

/-- Servers that answer some requests, and then are gone or say nothing more. -/
def answering (n : Nat) (ending : Ending) : Launcher Stream where
  peer := Stream.peer
  start _ _ := .ok (Stream.session (answers n) ending none)

end CommandLine

end DeadSymbols
