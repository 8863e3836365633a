/-
# What an analysis reports

An analysis that comes to its report has one result for each file that was found, in the order of
the paths: what analysing the text of the file alone gives, or that the file failed, did not end in
time or could not be read. Its status tells whether an issue of these results is as severe as the
limit, and a report as data or as a page has the first stream for itself unless it is written to a
file. Only a report that cannot be written ends the run before it has a status.
-/

import SfcLint.CommandLine.Session
import SfcLint.Proofs.Analysis.Pointwise
import SfcLint.Proofs.Files.SortedSet

namespace SfcLint

namespace Session

/-! ## Results -/

variable {disk : Disk} {plan : Plan} {stuck : List String} {path : String} {paths : List String}

/-- The result for a file that was found: what analysing its text comes to, or that there is no
text, with no issue and one error. -/
inductive ResultOn (disk : Disk) (plan : Plan) (stuck : List String) (path : String) :
    FileResult → Prop
  | readable {file : SourceFile} {result : FileResult} (read : textOf disk path = .ok file)
      (alone : ResultAlone plan stuck file result) : ResultOn disk plan stuck path result
  | unreadable {fault : ReadFault} (failed : textOf disk path = .error fault) :
      ResultOn disk plan stuck path ⟨path, [], [s!"Could not read file: {fault.message}"]⟩

theorem path_of_textOf {file : SourceFile} (read : textOf disk path = .ok file) :
    file.path = path := by
  obtain ⟨bytes, -, read⟩ := Except.bind_eq_ok_iff.mp read
  obtain ⟨text, -, read⟩ := Except.bind_eq_ok_iff.mp read
  obtain rfl := Except.pure_eq_ok_iff.mp read
  rfl

theorem ResultOn.path_eq {result : FileResult} (on : ResultOn disk plan stuck path result) :
    result.path = path := by
  cases on with
  | readable read alone => exact alone.path_eq.trans (path_of_textOf read)
  | unreadable => rfl

/-- The result for a file that was found. -/
def resultFor (disk : Disk) (plan : Plan) (stuck : List String) (path : String) : FileResult :=
  match textOf disk path with
  | .ok file => plan.share stuck file
  | .error fault => unreadable path fault

theorem resultOn_resultFor (disk : Disk) (plan : Plan) (stuck : List String) (path : String) :
    ResultOn disk plan stuck path (resultFor disk plan stuck path) := by
  rw [resultFor]
  split
  next file read => exact .readable read (.of_take plan stuck file)
  next fault failed => exact .unreadable failed

theorem path_resultFor : (resultFor disk plan stuck path).path = path :=
  (resultOn_resultFor disk plan stuck path).path_eq

namespace Task

/-- The files that can be read and those that cannot are all the files that were found. -/
theorem perm_resultFor (disk : Disk) (plan : Plan) (stuck paths : List String) :
    ((plan.analyzeAll stuck (readable disk paths)).result ++
      (faulty disk paths).map fun entry => unreadable entry.1 entry.2).Perm
        (paths.map (resultFor disk plan stuck)) := by
  rw [Plan.result_analyzeAll]
  -- Each path goes to one of the two rows, and its result stands there.
  induction paths with
  | nil => rfl
  | cons path later ih =>
    rw [List.map_cons, resultFor]
    cases read : textOf disk path with
    | ok file =>
      have first : readable disk (path :: later) = file :: readable disk later := by
        simp [readable, read, Except.toOption]
      have rest : faulty disk (path :: later) = faulty disk later := by simp [faulty, read]
      rw [first, rest]
      exact ih.cons _
    | error fault =>
      have first : readable disk (path :: later) = readable disk later := by
        simp [readable, read, Except.toOption]
      have rest : faulty disk (path :: later) = (path, fault) :: faulty disk later := by
        simp [faulty, read]
      rw [first, rest, List.map_cons]
      exact List.perm_middle.trans (ih.cons _)

/-- The results that a task reports under a plan. -/
def reported (task : Task) (plan : Plan) (stuck : List String) (disk : Disk) : List FileResult :=
  let paths := task.paths disk
  results (plan.analyzeAll stuck (readable disk paths)) (faulty disk paths)

theorem pairwise_paths (task : Task) (disk : Disk) : (task.paths disk).Pairwise (· < ·) :=
  pairwise_sortedSet _

theorem pairwise_sortByPath (results : List FileResult) :
    (sortByPath results).Pairwise fun a b => a.path ≤ b.path := by
  refine (List.pairwise_mergeSort (fun a b c first second => ?_) (fun a b => ?_) results).imp
    of_decide_eq_true
  · rw [decide_eq_true_eq] at first second ⊢
    exact String.le_trans first second
  · rw [Bool.or_eq_true, decide_eq_true_eq, decide_eq_true_eq]
    exact String.le_total _ _

/-- The results that are reported are those for the files that were found, in their order. -/
theorem reported_eq (task : Task) (plan : Plan) (stuck : List String) (disk : Disk) :
    task.reported plan stuck disk = (task.paths disk).map (resultFor disk plan stuck) := by
  have perm : (task.reported plan stuck disk).Perm
      ((task.paths disk).map (resultFor disk plan stuck)) :=
    (List.mergeSort_perm _ _).trans (perm_resultFor disk plan stuck _)
  have sorted : ((task.paths disk).map (resultFor disk plan stuck)).Pairwise
      fun a b => a.path ≤ b.path := by
    rw [List.pairwise_map]
    simp only [path_resultFor]
    exact (task.pairwise_paths disk).imp Std.le_of_lt
  refine perm.eq_of_pairwise (fun a b held heldThere before after => ?_)
    (pairwise_sortByPath _) sorted
  -- Every file has one result, so one path means one result.
  obtain ⟨path, -, rfl⟩ := List.mem_map.mp (perm.subset held)
  obtain ⟨path', -, rfl⟩ := List.mem_map.mp heldThere
  rw [path_resultFor, path_resultFor] at before after
  rw [String.le_antisymm before after]

/-! ## Status -/

theorem status_verdict (task : Task) (results : List FileResult) :
    (task.verdict results).1 = 2 ↔ ∃ limit ∈ task.failOn, ∃ result ∈ results,
      ∃ issue ∈ result.issues, limit.weight ≤ issue.severity.weight := by
  rw [verdict]
  cases task.failOn with
  | none => simp
  | some limit =>
    have severe_iff : (∃ level : Severity, level ∈ some limit ∧ ∃ result ∈ results,
        ∃ issue ∈ result.issues, level.weight ≤ issue.severity.weight) ↔
          reaches limit results = true := by
      simp [reaches]
    rw [severe_iff]
    by_cases severe : reaches limit results = true <;> simp [severe]

theorem status_verdict_cases (task : Task) (results : List FileResult) :
    (task.verdict results).1 = 2 ∨ (task.verdict results).1 = 0 := by
  rw [verdict]
  split
  next => split <;> simp
  next => exact .inr rfl

/-! ## The run of a task -/

variable {task : Task} {moment : Moment}

/-- The first stream holds the report on a line of its own between messages of the log, of which
there are none when the report is data or a page. -/
theorem out_outcome (unwritten : task.output = none) (status : Nat) (before after : List LogMessage)
    (report : String) :
    (task.outcome disk status before (report ++ "\n") after).out =
      if task.format = .console then
        logLines task.verbose before ++ (report ++ "\n") ++ logLines task.verbose after
      else report ++ "\n" := by
  by_cases terminal : task.format = .console
  · simp [outcome, reportsAlone, terminal]
  · simp [outcome, reportsAlone, terminal, unwritten]

theorem outcome_status (task : Task) (status : Nat) (before after : List LogMessage)
    (report : String) : (task.outcome disk status before report after).status = some status := by
  rw [outcome]
  split <;> rfl

theorem outcome_disk (task : Task) (status : Nat) (before after : List LogMessage)
    (report : String) : (task.outcome disk status before report after).disk = disk := by
  rw [outcome]
  split <;> rfl

/-- The disk after the report was written, if it is to be written. -/
def delivered (task : Task) (disk : Disk) (report : String) : Except Crash Disk :=
  match task.output with
  | none => .ok disk
  | some path => write disk path report

/-- Files were found, and the options of the analysis are accepted. -/
structure ComesToReport (task : Task) (disk : Disk) (plan : Plan) : Prop where
  found : task.paths disk ≠ []
  planned : Plan.make (some task.overrides) task.categories = .ok plan
  workers : readable disk (task.paths disk) = [] ∨ ∀ n ∈ task.workers, 0 < n

theorem ComesToReport.analyze_eq (comes : task.ComesToReport disk plan) :
    task.analyze stuck (readable disk (task.paths disk)) =
      .ok (plan.analyzeAll stuck (readable disk (task.paths disk))) := by
  have idle := BatchRequest.enough_iff.mpr comes.workers
  rw [analyze, comes.planned]
  simp [idle]

/-- A task that does not come to its report finds no files, and its run ends well, or its options
are not accepted, and its run fails. -/
theorem comesToReport_or (task : Task) (stuck : List String) (disk : Disk) (moment : Moment) :
    (∃ plan, task.ComesToReport disk plan) ∨
    (task.paths disk = [] ∧
      ∃ outcome, task.run stuck disk moment = .ok outcome ∧ outcome.status = some 0) ∨
    ((∃ failure, task.analyze stuck (readable disk (task.paths disk)) = .error failure) ∧
      ∃ outcome, task.run stuck disk moment = .ok outcome ∧ outcome.status = some 1) := by
  by_cases found : task.paths disk = []
  · refine .inr (.inl ⟨found, ?_⟩)
    rw [run, if_pos (by rw [found]; rfl)]
    exact ⟨_, rfl, outcome_status ..⟩
  · cases analysed : task.analyze stuck (readable disk (task.paths disk)) with
    | error failure =>
      refine .inr (.inr ⟨⟨failure, rfl⟩, ?_⟩)
      rw [run, if_neg (by simpa using found), analysed]
      exact ⟨_, rfl, outcome_status ..⟩
    | ok run =>
      rw [analyze] at analysed
      cases made : Plan.make (some task.overrides) task.categories with
      | error failure => simp [made] at analysed
      | ok plan =>
        refine .inl ⟨plan, found, made, BatchRequest.enough_iff.mp ?_⟩
        by_contra idle
        rw [Bool.not_eq_false] at idle
        simp [made, idle] at analysed

/-- The messages of the log before the report. -/
def messagesBefore (task : Task) (plan : Plan) (stuck : List String) (disk : Disk) :
    List LogMessage :=
  let paths := task.paths disk
  [task.opening] ++ [⟨.info, s!"Analyzing {paths.length} Vue.js file(s)..."⟩] ++
    faultMessages (faulty disk paths) ++
    (plan.analyzeAll stuck (readable disk paths)).events.filterMap messageOf?

/-- The messages of the log after the report. -/
def messagesAfter (task : Task) (results : List FileResult) : List LogMessage :=
  (task.output.map fun path => ⟨.info, s!"Report saved to: {path}"⟩).toList ++
    (task.verdict results).2

/-- A run that comes to its report ends with the verdict on the results, unless the report cannot be
written. -/
theorem ComesToReport.run_eq (comes : task.ComesToReport disk plan) :
    task.run stuck disk moment =
      let results := task.reported plan stuck disk
      let report := Report.render task.format task.verbose moment results
      (task.delivered disk report).map fun disk' =>
        task.outcome disk' (task.verdict results).1 (task.messagesBefore plan stuck disk)
          (if task.output.isNone then report ++ "\n" else "") (task.messagesAfter results) := by
  have found : (task.paths disk).isEmpty = false := by simp [comes.found]
  simp only [run, found, Bool.false_eq_true, if_false, comes.analyze_eq, delivered, messagesAfter]
  cases task.output with
  | none => rfl
  | some path => rfl

end Task

/-! ## The run of a command line -/

variable {session : Session} {words : List String} {task : Task}

/-- The task that a command line asks for, if it asks for an analysis and there are settings. -/
def task? (session : Session) (words : List String) : Option Task :=
  match CommandLine.read (words.map String.toList) with
  | .error _ => none
  | .ok invocation =>
      match invocation.command with
      | some (.analyze options) =>
          (Settings.load session.disk session.environment invocation.variableFile
            options.config).toOption.map fun settings => taskOf settings invocation.verbose options
      | _ => none

theorem settings_eq {variableFile configFile : Option String} {settings : Settings}
    (loaded : Settings.load session.disk session.environment variableFile configFile =
      .ok settings) : session.settings variableFile configFile = .ok (.ok settings) := by
  unfold Session.settings
  -- The outcome gets a name first, or opening the match on it would compute it.
  generalize Settings.load session.disk session.environment variableFile configFile = result
    at loaded ⊢
  subst loaded
  rfl

theorem analyze_eq_run {invocation : Invocation} {options : AnalyzeOptions} {settings : Settings}
    (loaded : Settings.load session.disk session.environment invocation.variableFile
      options.config = .ok settings) :
    session.analyze stuck invocation options =
      (taskOf settings invocation.verbose options).run stuck session.disk session.moment := by
  unfold analyze
  rw [settings_eq loaded]
  rfl

theorem runDespite_eq_run (asked : session.task? words = some task) :
    session.runDespite stuck words = task.run stuck session.disk session.moment := by
  rw [task?] at asked
  rw [runDespite]
  cases read : CommandLine.read (words.map String.toList) with
  | error stop => simp [read] at asked
  | ok invocation =>
    simp only [read] at asked
    dsimp only
    cases command : invocation.command with
    | none => simp [command] at asked
    | some given =>
      cases given with
      | analyze options =>
        simp only [command] at asked
        obtain ⟨settings, loaded, rfl⟩ := Option.map_eq_some_iff.mp asked
        exact analyze_eq_run (Except.toOption_eq_some_iff.mp loaded)
      | init force => simp [command] at asked
      | listPatterns => simp [command] at asked
      | serve options => simp [command] at asked

/-- A plan is what a task with files is missing, when it leaves the number of workers open. -/
theorem Task.exists_comesToReport (found : task.paths disk ≠ [])
    (planned : (Plan.make (some task.overrides) task.categories).isOk = true)
    (free : task.workers = none) : ∃ plan, task.ComesToReport disk plan := by
  cases made : Plan.make (some task.overrides) task.categories with
  | error failure => simp [made, Except.isOk, Except.toBool] at planned
  | ok plan => exact ⟨plan, found, made, .inr (by simp [free])⟩

/-- **What is reported.** When a command line asks for an analysis, files are found and its options
are accepted, the results that are reported have exactly the paths of these files, which rise from
one to the next, and each is the result for its file. If the report can be written, or is not to be
written to a file, the run ends with the status two when there is a limit and some issue reaches it,
and otherwise with the status zero; and a report that is not written to a file is on the first
stream, alone if it is data or a page. If it cannot be written the run crashes. -/
theorem run_reports (stuck : List String) (asked : session.task? words = some task)
    (comes : task.ComesToReport session.disk plan) :
    let results := task.reported plan stuck session.disk
    let report := Report.render task.format task.verbose session.moment results
    results.map FileResult.path = task.paths session.disk ∧
      (results.map FileResult.path).Pairwise (· < ·) ∧
      (∀ result ∈ results, ResultOn session.disk plan stuck result.path result) ∧
      (∀ disk, task.delivered session.disk report = .ok disk →
        ∃ outcome, session.runDespite stuck words = .ok outcome ∧ outcome.disk = disk ∧
          (outcome.status = some 2 ∨ outcome.status = some 0) ∧
          (outcome.status = some 2 ↔ ∃ limit ∈ task.failOn, ∃ result ∈ results,
            ∃ issue ∈ result.issues, limit.weight ≤ issue.severity.weight) ∧
          (task.output = none → ∃ before after, outcome.out = before ++ (report ++ "\n") ++ after ∧
            (task.format ≠ .console → outcome.out = report ++ "\n"))) ∧
      ∀ crash, task.delivered session.disk report = .error crash →
        session.runDespite stuck words = .error crash := by
  intro results report
  have paths : results.map FileResult.path = task.paths session.disk := by
    rw [show results = _ from task.reported_eq plan stuck session.disk, List.map_map]
    exact List.map_id'' (fun _ => path_resultFor) _
  have run : session.runDespite stuck words = (task.delivered session.disk report).map fun disk =>
      task.outcome disk (task.verdict results).1 (task.messagesBefore plan stuck session.disk)
        (if task.output.isNone then report ++ "\n" else "") (task.messagesAfter results) :=
    (runDespite_eq_run asked).trans comes.run_eq
  refine ⟨paths, paths ▸ task.pairwise_paths _, fun result held => ?_, fun disk written => ?_,
    fun crash failed => ?_⟩
  · rw [show results = _ from task.reported_eq plan stuck session.disk] at held
    obtain ⟨path, -, rfl⟩ := List.mem_map.mp held
    rw [path_resultFor]
    exact resultOn_resultFor _ _ _ _
  · rw [written] at run
    refine ⟨_, run, Task.outcome_disk .., ?_, ?_, fun unwritten => ?_⟩
    · rw [Task.outcome_status]
      simpa using task.status_verdict_cases results
    · rw [Task.outcome_status, Option.some_inj]
      exact task.status_verdict results
    · rw [unwritten, Option.isNone_none, if_pos rfl, Task.out_outcome unwritten]
      by_cases terminal : task.format = .console
      · rw [if_pos terminal]
        exact ⟨_, _, rfl, fun other => absurd terminal other⟩
      · rw [if_neg terminal]
        exact ⟨"", "", by simp, fun _ => rfl⟩
  · rw [failed] at run
    exact run

/-- A session in a folder with one component. -/
def loneFile : Session where
  disk := ⟨[(["work".toList, "A.vue".toList], "<template></template>".toList.map Char.toUInt8)], [],
    ["work".toList], ["home".toList]⟩
  environment := []
  moment := .ofSeconds 0

theorem exists_task_loneFile (words : List String) (output : Option String)
    (format : ReportFormat)
    (asked : (loneFile.task? words).map (fun task => (task.paths loneFile.disk,
        (Plan.make (some task.overrides) task.categories).isOk, task.workers, task.output,
        task.format)) =
      some (["A.vue"], true, none, output, format)) :
    ∃ task plan, loneFile.task? words = some task ∧ task.ComesToReport loneFile.disk plan ∧
      task.paths loneFile.disk = ["A.vue"] ∧ task.output = output ∧ task.format = format := by
  obtain ⟨task, asked, facts⟩ := Option.map_eq_some_iff.mp asked
  simp only [Prod.mk.injEq] at facts
  obtain ⟨paths, planned, free, output, format⟩ := facts
  obtain ⟨plan, comes⟩ := Task.exists_comesToReport (paths ▸ List.cons_ne_nil _ _) planned free
  exact ⟨task, plan, asked, comes, paths, output, format⟩

/-- The report on the component as data, with nothing beside it. -/
theorem run_reports_loneFile : ∃ task plan,
    loneFile.task? ["analyze", "A.vue", "--format", "json"] = some task ∧
      task.ComesToReport loneFile.disk plan ∧
      (task.reported plan [] loneFile.disk).map FileResult.path = ["A.vue"] ∧
      ∃ outcome, loneFile.run ["analyze", "A.vue", "--format", "json"] = .ok outcome ∧
        outcome.out = Report.render task.format task.verbose loneFile.moment
          (task.reported plan [] loneFile.disk) ++ "\n" := by
  obtain ⟨task, plan, asked, comes, paths, unwritten, format⟩ :=
    exists_task_loneFile ["analyze", "A.vue", "--format", "json"] none .json (by decide +kernel)
  obtain ⟨reported, -, -, ends, -⟩ := run_reports [] asked comes
  have written : task.delivered loneFile.disk (Report.render task.format task.verbose
      loneFile.moment (task.reported plan [] loneFile.disk)) = .ok loneFile.disk := by
    rw [Task.delivered, unwritten]
  obtain ⟨outcome, run, -, -, -, out⟩ := ends _ written
  obtain ⟨-, -, -, alone⟩ := out unwritten
  exact ⟨task, plan, asked, comes, reported.trans paths, outcome, run, alone (by simp [format])⟩

/-- A report that is to be written into a folder that is not there leaves the run without a
status. -/
theorem report_unwritable :
    ¬ ∀ (session : Session) (words : List String) (task : Task) (plan : Plan),
      session.task? words = some task → task.ComesToReport session.disk plan →
        ∃ outcome, session.run words = .ok outcome ∧
          (outcome.status = some 2 ∨ outcome.status = some 0) := by
  intro always
  obtain ⟨task, plan, asked, comes, -, output, -⟩ :=
    exists_task_loneFile ["analyze", "A.vue", "-o", "no/such/dir.txt"] (some "no/such/dir.txt")
      .console (by decide +kernel)
  obtain ⟨outcome, run, -⟩ := always loneFile _ task plan asked comes
  have unwritten (report : String) : task.delivered loneFile.disk report =
      .error (.file ⟨.missing, "no/such/dir.txt"⟩) := by
    rw [Task.delivered, output]
    rfl
  rw [Session.run, runDespite_eq_run asked, comes.run_eq] at run
  simp only [unwritten, Except.map] at run
  contradiction

end Session

end SfcLint
