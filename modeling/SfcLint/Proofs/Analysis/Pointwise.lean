/-
# Batches file by file

A batch gives one result for each of its files, in their order. Which one depends on the file and
on what is asked for, and not on the other files: it is what analysing the file alone gives, or
tells that the file failed or never ran.
-/

import Mathlib.Data.List.Perm.Basic
import SfcLint.Analysis.Batch
import SfcLint.Proofs.Text.Except

namespace SfcLint

/-- The value describes a file: an object with its path, of which one key goes before the other,
and its text, or a pair of both. -/
inductive SourceFile.Describes : Json → SourceFile → Prop
  | object {members : List (String × Json)} {path content : String}
      (named : (members.lookup "path").or (members.lookup "file_path") = some (.string path))
      (filled : members.lookup "content" = some (.string content)) :
      Describes (.object members) ⟨path, content⟩
  | pair (path content : String) : Describes (.list [.string path, .string content]) ⟨path, content⟩

namespace SourceFile

theorem Describes.read_eq {value : Json} {file : SourceFile} (describes : Describes value file) :
    read value = .ok file := by
  cases describes with
  | object named filled =>
    rw [read, named, filled]
    rfl
  | pair path content => rfl

end SourceFile

/-! ## The turn of a file -/

namespace Plan

variable {plan : Plan} {path source : String}

/-- A result is about the file that was analysed. -/
theorem path_of_analyze {result : FileResult}
    (analysed : (plan.analyze path source).result = .ok result) : result.path = path := by
  rw [analyze] at analysed
  split at analysed
  · obtain rfl := Except.ok.inj analysed
    rfl
  · obtain rfl := Except.ok.inj analysed
    rfl
  · contradiction

end Plan

/-- The result for a file in a batch under a plan, in which the files with some paths never run:
what analysing it alone gives, or that it failed or never ran. -/
inductive ResultAlone (plan : Plan) (stuck : List String) (file : SourceFile) : FileResult → Prop
  | stuck (never : file.path ∈ stuck) :
      ResultAlone plan stuck file ⟨file.path, [], ["Analysis timed out"]⟩
  | analysed {result : FileResult} (runs : file.path ∉ stuck)
      (analysed : (plan.analyze file.path file.content).result = .ok result) :
      ResultAlone plan stuck file result
  | failed {failure : Markup.TokenFailure} (runs : file.path ∉ stuck)
      (failed : (plan.analyze file.path file.content).result = .error failure) :
      ResultAlone plan stuck file ⟨file.path, [], [failure.message]⟩

namespace ResultAlone

variable {plan : Plan} {stuck : List String} {file : SourceFile}

theorem path_eq {result : FileResult} (alone : ResultAlone plan stuck file result) :
    result.path = file.path := by
  cases alone with
  | stuck => rfl
  | analysed _ analysed => exact Plan.path_of_analyze analysed
  | failed => rfl

/-- A file has one result. -/
theorem unique {result other : FileResult} (alone : ResultAlone plan stuck file result)
    (alone' : ResultAlone plan stuck file other) : result = other := by
  cases alone with
  | stuck never =>
    cases alone' with
    | stuck => rfl
    | analysed runs => exact absurd never runs
    | failed runs => exact absurd never runs
  | analysed runs analysed =>
    cases alone' with
    | stuck never => exact absurd never runs
    | analysed _ analysed' => exact Except.ok.inj (analysed.symm.trans analysed')
    | failed _ failed =>
      rw [analysed] at failed
      contradiction
  | failed runs failed =>
    cases alone' with
    | stuck never => exact absurd never runs
    | analysed _ analysed =>
      rw [failed] at analysed
      contradiction
    | failed _ failed' =>
      obtain rfl := Except.error.inj (failed.symm.trans failed')
      rfl

/-- The turn of a file comes to its result. -/
theorem of_take (plan : Plan) (stuck : List String) (file : SourceFile) :
    ResultAlone plan stuck file ((Turn.take plan stuck file).result file.path) := by
  rw [Turn.take]
  split
  next never => exact .stuck (List.contains_iff_mem.mp never)
  next runs =>
    rw [List.contains_iff_mem] at runs
    match analysed : plan.analyze file.path file.content with
    | ⟨events, .ok result⟩ => exact .analysed runs (congrArg Run.result analysed)
    | ⟨events, .error failure⟩ => exact .failed runs (congrArg Run.result analysed)

end ResultAlone

/-! ## Batches -/

/-- The result for a file in a batch under a plan. -/
def Plan.share (plan : Plan) (stuck : List String) (file : SourceFile) : FileResult :=
  (Turn.take plan stuck file).result file.path

theorem Plan.result_analyzeAll (plan : Plan) (stuck : List String) (files : List SourceFile) :
    (plan.analyzeAll stuck files).result = files.map (plan.share stuck) := by
  rw [Plan.analyzeAll, List.map_map]
  rfl

namespace BatchRequest

variable {request other : BatchRequest}

/-- There is nothing to do, or the number of workers is open or at least one. -/
theorem enough_iff {files : List SourceFile} {workers : Option Int} :
    (!files.isEmpty && workers.any (· ≤ 0)) = false ↔ files = [] ∨ ∀ n ∈ workers, 0 < n := by
  rw [Bool.and_eq_false_iff, Bool.not_eq_false', List.isEmpty_iff]
  refine or_congr_right ?_
  cases workers with
  | none => simp
  | some n => simp

/-- A batch runs exactly when its files can be read, there is a plan for it, and somebody is there
to do what is to be done. -/
theorem run_eq_ok_iff {run : Run (List FileResult)} :
    request.run = .ok run ↔ ∃ files plan, request.files.mapM SourceFile.read = .ok files ∧
      Plan.make request.overrides request.categories = .ok plan ∧
        (files = [] ∨ ∀ n ∈ request.workers, 0 < n) ∧
          run = plan.analyzeAll request.stuck files := by
  constructor
  · intro ran
    obtain ⟨files, read, ran⟩ := Except.bind_eq_ok_iff.mp ran
    obtain ⟨plan, made, ran⟩ := Except.bind_eq_ok_iff.mp ran
    have made : Plan.make request.overrides request.categories = .ok plan := by
      cases outcome : Plan.make request.overrides request.categories with
      | error failure =>
        rw [outcome] at made
        contradiction
      | ok plan' =>
        rw [outcome] at made
        exact congrArg _ (Except.ok.inj made)
    split at ran
    · contradiction
    next idle =>
      rw [Bool.not_eq_true] at idle
      exact ⟨files, plan, read, made, enough_iff.mp idle, (Except.ok.inj ran).symm⟩
  · rintro ⟨files, plan, read, made, workers, rfl⟩
    rw [BatchRequest.run, read, made]
    refine Except.bind_eq_ok_iff.mpr ⟨files, rfl, Except.bind_eq_ok_iff.mpr ⟨plan, rfl, ?_⟩⟩
    rw [enough_iff.mpr workers]
    rfl

theorem map_read_eq {values : List Json} {files : List SourceFile}
    (read : values.mapM SourceFile.read = .ok files) :
    values.map SourceFile.read = files.map .ok := by
  have pairs := Except.mapM_eq_ok_iff.mp read
  induction pairs with
  | nil => rfl
  | cons first _ ih =>
    rw [List.map_cons, List.map_cons, first]
    exact congrArg _ (ih (Except.mapM_eq_ok_iff.mpr (by assumption)))

/-- An accepted batch gives one result for each file, in order, and each is that of the file
alone. In another batch that asks for the same a file has the same result, wherever it stands and
whatever the other files are; so the results of the same files in another order are the same
results. -/
theorem run_file_by_file {files : List SourceFile} {plan : Plan}
    (described : List.Forall₂ SourceFile.Describes request.files files)
    (made : Plan.make request.overrides request.categories = .ok plan)
    (workers : ∀ n ∈ request.workers, 0 < n) :
    ∃ run, request.run = .ok run ∧
      List.Forall₂ (fun file result =>
        result.path = file.path ∧ ResultAlone plan request.stuck file result) files run.result ∧
      ∀ (other : BatchRequest) (otherRun : Run (List FileResult)),
        other.overrides = request.overrides → other.categories = request.categories →
        other.stuck = request.stuck → other.run = .ok otherRun →
          (∀ (i j : Nat) (value : Json), request.files[i]? = some value →
            other.files[j]? = some value → run.result[i]? = otherRun.result[j]?) ∧
          (other.files.Perm request.files → otherRun.result.Perm run.result) := by
  have read : request.files.mapM SourceFile.read = .ok files :=
    Except.mapM_eq_ok_iff.mpr (described.imp fun _ _ describes => describes.read_eq)
  refine ⟨_, run_eq_ok_iff.mpr ⟨files, plan, read, made, .inr workers, rfl⟩, ?_, ?_⟩
  · rw [Plan.result_analyzeAll, List.forall₂_map_right_iff, List.forall₂_same]
    intro file _
    have alone := ResultAlone.of_take plan request.stuck file
    exact ⟨alone.path_eq, alone⟩
  · intro other otherRun overrides categories stuck ran
    obtain ⟨otherFiles, otherPlan, otherRead, otherMade, -, rfl⟩ := run_eq_ok_iff.mp ran
    rw [overrides, categories, made] at otherMade
    obtain rfl := Except.ok.inj otherMade
    rw [stuck, Plan.result_analyzeAll, Plan.result_analyzeAll]
    constructor
    · intro i j value stands standsThere
      have here := congrArg (·[i]?) (map_read_eq read)
      have there := congrArg (·[j]?) (map_read_eq otherRead)
      simp only [List.getElem?_map, stands, standsThere] at here there
      have same : files[i]? = otherFiles[j]? :=
        Option.map_injective (fun _ _ => Except.ok.inj) (here.symm.trans there)
      rw [List.getElem?_map, List.getElem?_map, same]
    · intro reordered
      have results := reordered.map SourceFile.read
      rw [map_read_eq read, map_read_eq otherRead] at results
      exact ((List.map_perm_map_iff fun _ _ => Except.ok.inj).mp results).map _

/-- A batch of a script, a file that cannot be cut into tokens, and one that never runs, of which
the last two have one path. -/
def mixedBatch : BatchRequest where
  files := [.object [("file_path", .string "a.js"), ("content", .string "this.$parent")],
    .list [.string "b.vue", .string "<![x["], .list [.string "c.vue", .string ""],
    .object [("content", .string "<p>"), ("path", .string "c.vue")]]
  overrides := none
  categories := ["architecture"]
  workers := some 1
  stuck := ["c.vue"]

/-- The files that `mixedBatch` describes. -/
def mixedFiles : List SourceFile :=
  [⟨"a.js", "this.$parent"⟩, ⟨"b.vue", "<![x["⟩, ⟨"c.vue", ""⟩, ⟨"c.vue", "<p>"⟩]

/-- The results of `mixedBatch` are those of its files alone. -/
theorem run_file_by_file_mixed :
    ∃ plan run, Plan.make none ["architecture"] = .ok plan ∧ mixedBatch.run = .ok run ∧
      run.result.map FileResult.path = ["a.js", "b.vue", "c.vue", "c.vue"] ∧
        List.Forall₂ (ResultAlone plan ["c.vue"]) mixedFiles run.result := by
  have described : List.Forall₂ SourceFile.Describes mixedBatch.files mixedFiles :=
    .cons (.object rfl rfl) (.cons (.pair _ _) (.cons (.pair _ _) (.cons (.object rfl rfl) .nil)))
  have planned : (Plan.make none ["architecture"]).toOption.isSome = true := by rfl
  obtain ⟨plan, made⟩ := Option.isSome_iff_exists.mp planned
  have made := Except.toOption_eq_some_iff.mp made
  obtain ⟨run, ran, results, -⟩ := run_file_by_file described made (by
    intro n given
    obtain rfl := Option.some.inj given
    decide)
  have paths : run.result.map FileResult.path = mixedFiles.map SourceFile.path := by
    rw [← List.forall₂_eq_eq_eq, List.forall₂_map_left_iff, List.forall₂_map_right_iff]
    exact (results.imp fun _ _ holds => holds.1).flip
  exact ⟨plan, run, made, ran, paths, results.imp fun _ _ holds => holds.2⟩

end BatchRequest

end SfcLint
