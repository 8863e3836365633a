/-
# The course of an analysis

What an analysis does, step by step: it runs checks and tells events, and comes to a result. The
checks of a file run one after the other, and what they find is put together as they go. The files
of a batch have their turns, and then their results are gathered. Taken as a whole, such a course
tells the events, and comes to the result, that are known from what its parts come to.
-/

import Mathlib.Data.List.Basic
import SfcLint.Analysis.Batch

namespace SfcLint

/-- Something that is done in the course of an analysis. -/
inductive Act
  /-- A check is run on a file. -/
  | checked (id path : String)
  | told (event : Event)
  deriving DecidableEq, Repr

/-- What is told by an act. -/
def Act.event? : Act → Option Event
  | checked _ _ => none
  | told event => some event

/-- The acts on the way to a result. -/
structure Course (α : Type) where
  acts : List Act
  result : α

namespace Course

variable {α β : Type}

instance : Monad Course where
  pure result := ⟨[], result⟩
  bind first next := ⟨first.acts ++ (next first.result).acts, (next first.result).result⟩

instance : LawfulMonad Course :=
  .mk' Course (fun _ => congrArg (Course.mk · _) (List.append_nil _)) (fun _ _ => rfl)
    (fun _ _ _ => congrArg (Course.mk · _) (List.append_assoc _ _ _))

/-- Nothing but one act. -/
def act (act : Act) : Course Unit := ⟨[act], ()⟩

/-- Telling an event. -/
def tell (event : Event) : Course Unit := act (.told event)

/-- What is told in the course. -/
def events (course : Course α) : List Event := course.acts.filterMap Act.event?

/-- The course as a run. -/
def run (course : Course α) : Run α := ⟨course.events, course.result⟩

@[simp] theorem acts_pure (a : α) : (pure a : Course α).acts = [] := rfl

@[simp] theorem result_pure (a : α) : (pure a : Course α).result = a := rfl

@[simp] theorem acts_bind (first : Course α) (next : α → Course β) :
    (first >>= next).acts = first.acts ++ (next first.result).acts := rfl

@[simp] theorem result_bind (first : Course α) (next : α → Course β) :
    (first >>= next).result = (next first.result).result := rfl

@[simp] theorem acts_map (f : α → β) (course : Course α) : (f <$> course).acts = course.acts :=
  List.append_nil _

@[simp] theorem result_map (f : α → β) (course : Course α) :
    (f <$> course).result = f course.result := rfl

@[simp] theorem events_pure (a : α) : (pure a : Course α).events = [] := rfl

@[simp] theorem events_bind (first : Course α) (next : α → Course β) :
    (first >>= next).events = first.events ++ (next first.result).events :=
  List.filterMap_append

@[simp] theorem events_map (f : α → β) (course : Course α) :
    (f <$> course).events = course.events :=
  congrArg (List.filterMap _) (acts_map f course)

@[simp] theorem events_tell (event : Event) : (tell event).events = [event] := rfl

theorem acts_mapM (f : α → Course β) (xs : List α) :
    (xs.mapM f).acts = xs.flatMap fun x => (f x).acts := by
  induction xs with
  | nil => rfl
  | cons x later ih => simp [List.mapM_cons, ih]

theorem events_mapM (f : α → Course β) (xs : List α) :
    (xs.mapM f).events = xs.flatMap fun x => (f x).events := by
  rw [events, acts_mapM, List.filterMap_flatMap]
  rfl

theorem result_mapM (f : α → Course β) (xs : List α) :
    (xs.mapM f).result = xs.map fun x => (f x).result := by
  induction xs with
  | nil => rfl
  | cons x later ih => simp [List.mapM_cons, ih]

end Course

/-! ## Checks -/

/-- What checks have come to so far. -/
structure Findings where
  issues : List Issue
  errors : List String

namespace Check

section

variable (component : Component) (path : String) (thresholds : Thresholds)

/-- A check is run. What it returns joins the issues; when it fails, that joins the errors and is
told. -/
def attempt (found : Findings) (check : Check) : Course Findings := do
  Course.act (.checked check.id path)
  match check.run component path thresholds with
  | .ok issues => return { found with issues := found.issues ++ issues }
  | .error reason =>
      Course.tell (.checkFailed path check.id reason)
      return { found with errors := found.errors ++ [check.id ++ ": " ++ reason] }

/-- Checks are run one after the other, and the issues are sorted in the end. -/
def attemptAll (checks : List Check) : Course FileResult := do
  let found ← checks.foldlM (attempt component path thresholds) ⟨[], []⟩
  return ⟨path, Issue.sort found.issues, found.errors⟩

end

namespace Outcome

/-- The acts by which a check comes to the outcome. -/
def acts (path : String) (outcome : Outcome) : List Act :=
  .checked outcome.1 path ::
    outcome.failure?.toList.map fun (id, reason) => .told (.checkFailed path id reason)

/-- What is found with one more outcome. -/
def joined (found : Findings) (outcome : Outcome) : Findings :=
  ⟨found.issues ++ outcome.issues,
    found.errors ++ outcome.failure?.toList.map fun (id, reason) => id ++ ": " ++ reason⟩

theorem filterMap_acts (path : String) (outcome : Outcome) :
    (outcome.acts path).filterMap Act.event? =
      outcome.failure?.toList.map fun (id, reason) => .checkFailed path id reason := by
  rw [acts, List.filterMap_cons_none rfl, List.filterMap_map]
  cases outcome.failure? <;> rfl

theorem foldl_joined (outcomes : List Outcome) (found : Findings) :
    outcomes.foldl joined found =
      ⟨found.issues ++ outcomes.flatMap issues,
        found.errors ++ (outcomes.filterMap failure?).map fun (id, reason) =>
          id ++ ": " ++ reason⟩ := by
  induction outcomes generalizing found with
  | nil => simp
  | cons outcome later ih =>
    rw [List.foldl_cons, ih, joined, List.filterMap_cons]
    cases outcome.failure? <;> simp

end Outcome

variable {component : Component} {path : String} {thresholds : Thresholds}

/-- A check adds what it comes to, and only that. -/
theorem attempt_eq (found : Findings) (check : Check) :
    let outcome : Outcome := (check.id, check.run component path thresholds)
    attempt component path thresholds found check =
      ⟨outcome.acts path, outcome.joined found⟩ := by
  rw [attempt]
  cases check.run component path thresholds with
  | ok issues => simp [Outcome.joined, Outcome.issues, Outcome.failure?]; rfl
  | error reason => simp [Outcome.joined, Outcome.issues, Outcome.failure?]; rfl

theorem foldlM_attempt (checks : List Check) (found : Findings) :
    checks.foldlM (attempt component path thresholds) found =
      ⟨(outcomes checks component path thresholds).flatMap (Outcome.acts path),
        (outcomes checks component path thresholds).foldl Outcome.joined found⟩ := by
  induction checks generalizing found with
  | nil => rfl
  | cons check later ih =>
    rw [List.foldlM_cons, attempt_eq]
    -- The later checks go on from what the first one leaves.
    exact congrArg (fun course : Course Findings => (⟨_ ++ course.acts, course.result⟩ :
      Course Findings)) (ih _)

theorem acts_attemptAll (checks : List Check) :
    (attemptAll component path thresholds checks).acts =
      (outcomes checks component path thresholds).flatMap (Outcome.acts path) := by
  rw [attemptAll, Course.acts_bind, foldlM_attempt, Course.acts_pure, List.append_nil]

/-- Running checks one after the other comes to what is collected from their outcomes. -/
theorem run_attemptAll (checks : List Check) :
    (attemptAll component path thresholds checks).run =
      runAll checks component path thresholds := by
  rw [Course.run, Course.events, acts_attemptAll, attemptAll, Course.result_bind, foldlM_attempt,
    Outcome.foldl_joined, runAll, collect, List.filterMap_flatMap]
  simp only [Outcome.filterMap_acts, List.nil_append, Course.result_pure]
  rw [← List.map_flatMap, ← List.filterMap_eq_flatMap_toList]

end Check

/-! ## Files -/

namespace Plan

variable (plan : Plan) (stuck : List String)

/-- A file is analysed step by step. -/
def work (path source : String) : Course (Except Markup.TokenFailure FileResult) := do
  Course.tell (.parseStarted path)
  match Component.read path.toList source.toList with
  | .ok component =>
      return .ok (← Check.attemptAll component path plan.thresholds plan.checks)
  | .error (.malformed fault _) =>
      Course.tell (.parseFailed path fault.message)
      return .ok (.ofFault path fault.message)
  | .error (.unreadable failure) => return .error failure

/-- Working on a file comes to its analysis. -/
theorem run_work (path source : String) :
    (plan.work path source).run = plan.analyze path source := by
  rw [work, analyze]
  cases Component.read path.toList source.toList with
  | ok component =>
    dsimp only
    rw [analyzeComponent, ← Check.run_attemptAll]
    simp [Course.run]
  | error failure => cases failure <;> rfl

/-- The turn of a file, which comes to nothing when the file never runs. -/
def task (file : SourceFile) : Course (Option (Except Markup.TokenFailure FileResult)) :=
  if stuck.contains file.path then return none
  else do
    Course.tell (.fileStarted file.path)
    match ← plan.work file.path file.content with
    | .ok result =>
        Course.tell (.fileCompleted file.path result.issues.length)
        return some (.ok result)
    | .error failure => return some (.error failure)

end Plan

namespace SourceFile

/-- The result for a file is made from what its turn came to, and it is told if that is none. -/
def gather (file : SourceFile) :
    Option (Except Markup.TokenFailure FileResult) → Course FileResult
  | some (.ok result) => return result
  | some (.error failure) => do
      Course.tell (.fileFailed file.path failure.message)
      return ⟨file.path, [], [failure.message]⟩
  | none => do
      Course.tell (.fileFailed file.path "timed out")
      return ⟨file.path, [], ["Analysis timed out"]⟩

end SourceFile

namespace Plan

variable (plan : Plan) (stuck : List String) (file : SourceFile)

theorem events_task :
    (plan.task stuck file).events = (Turn.take plan stuck file).events file.path := by
  rw [task, Turn.take]
  split
  · rfl
  · rw [← run_work, Course.events_bind, Course.events_bind]
    cases plan.work file.path file.content with
    | mk acts outcome => cases outcome <;> simp [Turn.events, Course.run]

theorem gather_task :
    file.gather (plan.task stuck file).result =
      ⟨((Turn.take plan stuck file).failure? file.path).toList.map Act.told,
        (Turn.take plan stuck file).result file.path⟩ := by
  rw [task, Turn.take]
  split
  · rfl
  · rw [← run_work, Course.result_bind, Course.result_bind]
    cases plan.work file.path file.content with
    | mk acts outcome => cases outcome <;> rfl

end Plan

/-! ## Batches -/

namespace Plan

variable (plan : Plan) (stuck : List String)

/-- All files have their turns, and then their results are gathered. -/
def workAll (files : List SourceFile) : Course (List FileResult) := do
  let outcomes ← files.mapM (plan.task stuck)
  (files.zip outcomes).mapM fun (file, outcome) => file.gather outcome

/-- Working on files comes to their analysis. -/
theorem run_workAll (files : List SourceFile) :
    (plan.workAll stuck files).run = plan.analyzeAll stuck files := by
  have outcomes : files.zip (files.mapM (plan.task stuck)).result =
      files.map fun file => (file, (plan.task stuck file).result) := by
    rw [Course.result_mapM, List.map_prod_left_eq_zip]
  have failures (file : SourceFile) : (file.gather (plan.task stuck file).result).events =
      ((Turn.take plan stuck file).failure? file.path).toList := by
    rw [gather_task, Course.events, List.filterMap_map]
    exact List.filterMap_some
  have results (file : SourceFile) : (file.gather (plan.task stuck file).result).result =
      (Turn.take plan stuck file).result file.path := by
    rw [gather_task]
  rw [workAll, Course.run, Course.events_bind, Course.result_bind, outcomes, Course.events_mapM,
    Course.events_mapM, Course.result_mapM, analyzeAll, List.flatMap_map, List.flatMap_map,
    List.map_map, List.map_map, List.filterMap_map, List.filterMap_eq_flatMap_toList]
  simp only [events_task, failures, results, Function.comp_def]

end Plan

/-- A batch step by step. The entries are read, the plan is made and the workers are looked at
before anything is done. -/
def BatchRequest.proceed (request : BatchRequest) :
    ExceptT BatchError Course (List FileResult) := do
  let files ← (request.files.mapM SourceFile.read : Except BatchError (List SourceFile))
  let plan ← (Plan.make request.overrides request.categories).mapError BatchError.plan
  if files.isEmpty then return []
  if request.workers.any (· ≤ 0) then throw .noWorkers
  plan.workAll request.stuck files

/-- A batch that is accepted tells the events, and comes to the results, of its run, and for one
that is not nothing is done. -/
theorem BatchRequest.run_proceed (request : BatchRequest) :
    match request.run with
    | .ok run => request.proceed.run.run = ⟨run.events, .ok run.result⟩
    | .error failure => request.proceed.run = ⟨[], .error failure⟩ := by
  rw [run, proceed]
  cases request.files.mapM SourceFile.read with
  | error failure => rfl
  | ok files =>
    cases Plan.make request.overrides request.categories with
    | error failure => rfl
    | ok plan =>
      cases files with
      | nil => rfl
      | cons file later =>
        cases request.workers.any (· ≤ 0) with
        | true => rfl
        | false =>
          have whole := plan.run_workAll request.stuck (file :: later)
          change (Except.ok <$> plan.workAll request.stuck (file :: later) : Course _).run =
            ⟨(plan.analyzeAll request.stuck (file :: later)).events,
              .ok (plan.analyzeAll request.stuck (file :: later)).result⟩
          rw [← whole, Course.run, Course.events_map]
          rfl

end SfcLint
