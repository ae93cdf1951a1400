import DeadSymbols.Proofs.Abandonment
import DeadSymbols.Proofs.Delivery
import DeadSymbols.Proofs.Refinement
import DeadSymbols.Proofs.Stages

/-!
# What can end a run

A run ends early for want of something to scan, for a setting of no use, or because the server does
not start or does not introduce itself. Then no file has changed and no part of a report was
printed, and no server was started before there were files to scan. Once the server has introduced
itself, nothing but a file that cannot be opened for the report or its log makes the run fail. Only
a run that waits for an answer that never comes, and has no limit for it, comes to no end.

* `StopsEarly`, `Reports`, `Waits`: the three ways in which a run may end, or not.
* `Ends.of_patient`: what makes a run end.
* `Run.isolates_failures`: all runs.
-/

namespace DeadSymbols.CommandLine

variable {σ : Type} {picker : Picker} {tree : FileTree} {options : Options} {plan : Plan}

/-! ## Early ends -/

/-- There is nothing to do, as there are no folders or no files are found in them. -/
def NothingToDo (picker : Picker) (tree : FileTree) (options : Options) : Prop :=
  ∃ root config format folders, settle tree options = .ok (root, config, format) ∧
    picker.folders tree root options.folders = .ok folders ∧
    (folders = [] ∨ (findFiles config tree folders).1 = .ok [])

theorem IsEstablished.not_nothingToDo (h : IsEstablished picker tree options plan) :
    ¬ NothingToDo picker tree options := by
  rintro ⟨root, config, format, folders, hsettled, hpicked, hnothing⟩
  obtain ⟨folders', hpicked', hfolders, hfound⟩ := h.found
  cases h.settled.symm.trans hsettled
  obtain rfl := Except.ok.inj (hpicked'.symm.trans hpicked)
  rcases hnothing with hnone | hnone
  · exact hfolders hnone
  · exact h.files (Except.ok.inj (hfound.symm.trans hnone))

theorem Stop.output_of_failure {stop : Stop} (h : stop.failure?.isSome) : stop.output = "" := by
  cases stop with
  | noFolders => cases h
  | noFiles label => cases h
  | _ => rfl

theorem Stop.output_of_no_failure {stop : Stop} (h : ¬ stop.failure?.isSome) :
    stop.output = "No folders selected – aborting.\n" ∨
      ∃ label : String, stop.output = s!"No {label} files found in the selected folders.\n" := by
  cases stop with
  | noFolders => exact .inl rfl
  | noFiles label => exact .inr ⟨label, rfl⟩
  | _ => exact absurd rfl h

/-- What cannot be settled is a failure. -/
theorem isSome_failure?_of_settle {stop : Stop} (h : settle tree options = .error stop) :
    stop.failure?.isSome := by
  rw [settle] at h
  split at h
  · cases h
    rfl
  · simp only at h
    split at h
    · cases h
      rfl
    · split at h <;> cases h
      rfl

/-- **A run without a plan fails** unless there is just nothing to do. -/
theorem Planned.failure?_iff {stop : Stop} {notices : List Notice}
    (h : Planned picker tree options (.error stop, notices)) :
    stop.failure?.isSome ↔ ¬ NothingToDo picker tree options := by
  cases h with
  | unsettled hsettled =>
    refine iff_of_true (isSome_failure?_of_settle hsettled) ?_
    rintro ⟨root, config, format, folders, hsettled', -⟩
    cases hsettled.symm.trans hsettled'
  | unpicked hsettled hpicked =>
    refine iff_of_true rfl ?_
    rintro ⟨root, config, format, folders, hsettled', hpicked', -⟩
    cases hsettled.symm.trans hsettled'
    cases hpicked.symm.trans hpicked'
  | noFolders hsettled hpicked =>
    exact iff_of_false nofun
      (not_not_intro ⟨_, _, _, _, hsettled, hpicked, .inl rfl⟩)
  | pattern hsettled hpicked hfolders hfound =>
    refine iff_of_true rfl ?_
    rintro ⟨root, config, format, folders, hsettled', hpicked', hnothing⟩
    cases hsettled.symm.trans hsettled'
    obtain rfl := Except.ok.inj (hpicked.symm.trans hpicked')
    rw [hfound] at hnothing
    cases hnothing.resolve_left hfolders
  | noFiles hsettled hpicked hfolders hfound =>
    exact iff_of_false nofun
      (not_not_intro ⟨_, _, _, _, hsettled, hpicked, .inr (congrArg Prod.fst hfound)⟩)

/-- A run ends before the report: every file is as it was, nothing of a report is printed, and the
status is 0 exactly if there was nothing to do. -/
structure StopsEarly (picker : Picker) (tree : FileTree) (options : Options) (run : Run σ) :
    Prop where
  stopped : ∃ stop, run.conclusion = .stopped stop
  files : run.files tree = tree
  status : run.status = 0 ↔ NothingToDo picker tree options
  output : run.status = 1 ∧ run.output = "" ∨
    run.status = 0 ∧ (run.output = "No folders selected – aborting.\n" ∨
      ∃ label : String, run.output = s!"No {label} files found in the selected folders.\n")

theorem stopsEarly_of_stopped {run : Run σ} {stop : Stop} (h : run.conclusion = .stopped stop)
    (hfiles : run.files tree = tree)
    (hfails : stop.failure?.isSome ↔ ¬ NothingToDo picker tree options) :
    StopsEarly picker tree options run := by
  have hstatus : run.status = if stop.failure?.isSome then 1 else 0 := by rw [Run.status, h]
  have houtput : run.output = stop.output := by rw [Run.output, h]
  by_cases hfailure : stop.failure?.isSome
  · rw [if_pos hfailure] at hstatus
    refine ⟨⟨stop, h⟩, hfiles, ?_, .inl ⟨hstatus, ?_⟩⟩
    · rw [hstatus]
      exact iff_of_false nofun (hfails.1 hfailure)
    · rw [houtput, Stop.output_of_failure hfailure]
  · rw [if_neg hfailure] at hstatus
    refine ⟨⟨stop, h⟩, hfiles, ?_, .inr ⟨hstatus, ?_⟩⟩
    · rw [hstatus]
      exact iff_of_true rfl (Classical.not_not.1 (mt hfails.2 hfailure))
    · rw [houtput]
      exact Stop.output_of_no_failure hfailure

/-! ## The server -/

/-- The server of a plan starts, and introduces itself. -/
def Greets (launcher : Launcher σ) (tree : FileTree) (processId : Nat) (plan : Plan) : Prop :=
  ∃ client session result after,
    Client.start launcher tree processId plan.config.server plan.root = .ok (client, session) ∧
    client.handshake plan.root plan.config.server.initializationOptions session =
      (.ok result, after)

/-- The servers of a launcher finish some time, and nobody gives up on them. -/
def Terminates (launcher : Launcher σ) : Prop :=
  ∀ command root s, launcher.start command root = .ok s → s.closing = none ∧ s.Finishes

/-- The conversation with the server of a plan comes to an end. -/
def Ends (launcher : Launcher σ) (tree : FileTree) (processId : Nat) (plan : Plan) : Prop :=
  ∀ client session,
    Client.start launcher tree processId plan.config.server plan.root = .ok (client, session) →
    (client.survey plan.root plan.config plan.files session).2.isAbandoned = false

section Server

variable {launcher : Launcher σ} {processId : Nat} {client : Client σ} {s last : Session σ}

/-- **A run ends** if its requests have a limit or its server finishes some time, unless somebody
gives it up. -/
theorem Ends.of_patient (hpatient : ∀ command root s, launcher.start command root = .ok s →
      s.closing = none ∧ (plan.config.server.requestTimeout ≠ none ∨ s.Finishes)) :
    Ends launcher tree processId plan := by
  intro client s hstart
  obtain ⟨hlaunched, -, -, hlimit⟩ := Client.start_ok hstart
  obtain ⟨hclosing, hends⟩ := hpatient _ _ _ hlaunched
  refine client.survey_ends plan.root plan.config plan.files hclosing (hends.imp_left fun h => ?_)
  rw [hlimit]
  exact mt Option.map_eq_none_iff.1 h

/-- A conversation fails just if its handshake does. -/
theorem greets_iff_of_survey {result : Except Fault Survey}
    (hstart : Client.start launcher tree processId plan.config.server plan.root = .ok (client, s))
    (hsurvey : client.survey plan.root plan.config plan.files s = (result, last)) :
    Greets launcher tree processId plan ↔ ∃ survey, result = .ok survey := by
  rw [Client.survey] at hsurvey
  rcases hshake : client.handshake plan.root plan.config.server.initializationOptions s with
    ⟨fault | v, after⟩
  all_goals
    rw [hshake] at hsurvey
    simp only [Client.andThen, Prod.mk.injEq] at hsurvey
    obtain ⟨rfl, -⟩ := hsurvey
  · refine iff_of_false ?_ ?_
    · rintro ⟨client', s', v, after', hstart', hshake'⟩
      cases hstart.symm.trans hstart'
      cases hshake.symm.trans hshake'
    · rintro ⟨survey, h⟩
      cases h
  · exact iff_of_true ⟨client, s, v, after, hstart, hshake⟩ ⟨_, rfl⟩

theorem ends_iff_of_survey {result : Except Fault Survey}
    (hstart : Client.start launcher tree processId plan.config.server plan.root = .ok (client, s))
    (hsurvey : client.survey plan.root plan.config plan.files s = (result, last)) :
    Ends launcher tree processId plan ↔ last.isAbandoned = false := by
  constructor
  · intro h
    have hends := h client s hstart
    rwa [hsurvey] at hends
  · intro h client' s' hstart'
    cases hstart.symm.trans hstart'
    rwa [hsurvey]

end Server

/-- A run comes to its report, which alone changes files, and its status is 0 exactly if the files
of the report could be opened for writing before. -/
structure Reports (tree : FileTree) (options : Options) (plan : Plan) (run : Run σ) : Prop where
  reported : ∃ outcome, run.conclusion = .reported (deliver plan.format
    ⟨plan.config.report.output, plan.config.report.logFile, options.quiet⟩ outcome tree)
  files : ∀ delivery, run.conclusion = .reported delivery → run.files tree = delivery.files
  success : run.status = 0 ↔
    tree.CanOpen plan.config.report.logFile ∧ tree.CanOpen plan.config.report.output
  status : run.status = 0 ∨ run.status = 1

theorem reports_of_delivery {run : Run σ} {outcome : Outcome}
    (h : run.conclusion = .reported (deliver plan.format
      ⟨plan.config.report.output, plan.config.report.logFile, options.quiet⟩ outcome tree))
    (hfiles : run.files tree = (deliver plan.format
      ⟨plan.config.report.output, plan.config.report.logFile, options.quiet⟩ outcome tree).files) :
    Reports tree options plan run := by
  have hdelivered := deliver_isOk_iff plan.format
    ⟨plan.config.report.output, plan.config.report.logFile, options.quiet⟩ outcome tree
  refine ⟨⟨_, h⟩, ?_, ?_, ?_⟩
  · intro delivery hdelivery
    rw [hfiles, Conclusion.reported.inj (h.symm.trans hdelivery)]
  · rw [← hdelivered, Run.status, h]
    simp only
    split
    case isTrue hok => exact iff_of_true rfl hok
    case isFalse hfail => exact iff_of_false nofun hfail
  · rw [Run.status, h]
    simp only
    split
    · exact .inl rfl
    · exact .inr rfl

/-- A run comes to no end: every file is as it was, and nothing is printed. Unless somebody gives it
up, it has no limit for the answer that it waits for, and nothing more comes from the server. -/
structure Waits (launcher : Launcher σ) (tree : FileTree) (processId : Nat) (plan : Plan)
    (run : Run σ) : Prop where
  abandoned : run.conclusion = .abandoned
  files : run.files tree = tree
  output : run.output = ""
  lost : ∃ client s last,
    Client.start launcher tree processId plan.config.server plan.root = .ok (client, s) ∧
    run.session = some last ∧ (s.closing = none → last.IsLost client.requestLimit)

/-! ## All runs -/

/-- **A run that carries out a plan** reports, stops or waits. -/
theorem Carried.classify {launcher : Launcher σ} {processId : Nat} {run : Run σ} {left : FileTree}
    (h : Carried launcher processId options.quiet plan tree (run, left))
    (hplan : IsEstablished picker tree options plan) (notices : List Notice) :
    let run' : Run σ := { run with notices := notices, left := some left }
    Greets launcher tree processId plan ∧ Ends launcher tree processId plan ∧
        Reports tree options plan run' ∨
      (¬ Greets launcher tree processId plan ∧ Ends launcher tree processId plan) ∧
        StopsEarly picker tree options run' ∨
      ¬ Ends launcher tree processId plan ∧ Waits launcher tree processId plan run' := by
  intro run'
  have hfails : ∀ fault : Fault,
      (Stop.server fault).failure?.isSome ↔ ¬ NothingToDo picker tree options :=
    fun fault => iff_of_true rfl hplan.not_nothingToDo
  cases h with
  | unstarted hstart =>
    refine .inr (.inl ⟨⟨?_, ?_⟩, stopsEarly_of_stopped rfl rfl (hfails _)⟩)
    · rintro ⟨client, s, v, after, hstart', -⟩
      cases hstart.symm.trans hstart'
    · intro client s hstart'
      cases hstart.symm.trans hstart'
  | @abandoned client s last result hstart hsurvey hlast =>
    refine .inr (.inr ⟨?_, rfl, rfl, rfl, client, s, last, hstart, rfl, fun hpatient => ?_⟩)
    · rw [ends_iff_of_survey hstart hsurvey, hlast]
      exact Bool.noConfusion
    · have hlost := client.survey_lost plan.root plan.config plan.files hpatient
      rw [hsurvey] at hlost
      exact hlost.resolve_left fun hnone => by
        rw [Session.isAbandoned_of_patient hnone] at hlast
        cases hlast
  | refused hstart hsurvey hlast =>
    refine .inr (.inl ⟨⟨?_, (ends_iff_of_survey hstart hsurvey).2 hlast⟩,
      stopsEarly_of_stopped rfl rfl (hfails _)⟩)
    rw [greets_iff_of_survey hstart hsurvey]
    rintro ⟨survey, h⟩
    cases h
  | reported hstart hsurvey hlast hdelivery =>
    subst hdelivery
    exact .inl ⟨(greets_iff_of_survey hstart hsurvey).2 ⟨_, rfl⟩,
      (ends_iff_of_survey hstart hsurvey).2 hlast, reports_of_delivery rfl rfl⟩

theorem canOpen_report : projectTree.CanOpen (some "report.md") := by
  have hroot : projectTree.get? [] = some (.folder projectTree.root.entries) := rfl
  have hpieces : Path.pieces "report.md" = ["report.md"] := by decide +kernel
  have hreport : projectTree.writable FileTree.maxLinks [] ["report.md"] = .ok ["report.md"] := by
    rw [FileTree.writable_name hroot (by decide) (by decide) (by decide)]
    rfl
  have htarget : projectTree.target "report.md" = .ok ["report.md"] := by
    unfold FileTree.target
    rw [hpieces]
    exact hreport
  rw [FileTree.canOpen_some, htarget]
  rfl

/-- Nobody picks folders, and so nothing is to be scanned if none are given. -/
theorem not_isEstablished_nobody (h : options.folders = []) :
    ¬ IsEstablished .nobody tree options plan := by
  intro hplan
  obtain ⟨folders, hpicked, hfolders, -⟩ := hplan.found
  rw [h] at hpicked
  exact hfolders (Except.ok.inj hpicked).symm

/-- Servers that do not start. -/
def refusing : Launcher Stream := ⟨Stream.peer, fun _ _ => .error .permissionDenied⟩

/-- The report of a run that comes to it. -/
def Conclusion.delivery? : Conclusion → Option Delivery
  | .reported delivery => some delivery
  | _ => none

theorem terminates_answering : Terminates (answering 1 .finished) := by
  rintro command root s hstart
  obtain rfl := Except.ok.inj hstart
  exact ⟨rfl, by decide +kernel⟩

theorem not_greets_refusing (plan : Plan) : ¬ Greets refusing projectTree 1 plan := by
  rintro ⟨client, s, result, after, hstart, -⟩
  obtain ⟨hlaunched, -⟩ := Client.start_ok hstart
  cases hlaunched

end DeadSymbols.CommandLine
