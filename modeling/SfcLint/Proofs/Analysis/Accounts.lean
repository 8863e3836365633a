/-
# The account of a batch

A batch is refused before anything is done for it, or it gives an account of every file. Of the
events that name no stage there is one start for each file that runs, and one end for each file:
that it is completed, with the number of the issues of its result, or that it failed, because it
never ran or its analysis did. This holds in whatever order the events of the files come.
-/

import SfcLint.Proofs.Analysis.Course
import SfcLint.Proofs.Analysis.Pointwise
import SfcLint.Proofs.Analysis.Selection

namespace SfcLint

/-! ## Starts and ends -/

namespace Event

/-- The text of a member of the event as a data value. -/
def text? (event : Event) (key : String) : Option String :=
  match event.toJson.get? key with
  | some (.string text) => some text
  | _ => none

/-- The event names no stage. -/
def isPlain (event : Event) : Bool := (event.toJson.get? "stage").isNone

/-- Something is started, and it is no stage. -/
def isStart (event : Event) : Bool := event.isPlain && event.text? "status" == some "started"

/-- Something is completed or failed, and it is no stage. -/
def isEnd (event : Event) : Bool :=
  event.isPlain &&
    (event.text? "status" == some "completed" || event.text? "status" == some "failed")

@[simp] theorem isStart_fileStarted (path : String) : (fileStarted path).isStart = true := rfl

@[simp] theorem isEnd_fileStarted (path : String) : (fileStarted path).isEnd = false := rfl

@[simp] theorem isStart_fileCompleted (path : String) (issues : Nat) :
    (fileCompleted path issues).isStart = false := rfl

@[simp] theorem isEnd_fileCompleted (path : String) (issues : Nat) :
    (fileCompleted path issues).isEnd = true := rfl

@[simp] theorem isStart_fileFailed (path reason : String) :
    (fileFailed path reason).isStart = false := rfl

@[simp] theorem isEnd_fileFailed (path reason : String) :
    (fileFailed path reason).isEnd = true := rfl

theorem isPlain_of_isStart {event : Event} (starts : event.isStart = true) :
    event.isPlain = true :=
  (Bool.and_eq_true_iff.mp starts).1

theorem isPlain_of_isEnd {event : Event} (ends : event.isEnd = true) : event.isPlain = true :=
  (Bool.and_eq_true_iff.mp ends).1

end Event

namespace Plan

variable (plan : Plan) (path source : String)

/-- All events of the analysis of a file are of a stage. -/
theorem isPlain_of_mem_analyze {event : Event}
    (member : event ∈ (plan.analyze path source).events) : event.isPlain = false := by
  rw [analyze] at member
  split at member
  · rcases List.mem_cons.mp member with rfl | member
    · rfl
    · obtain ⟨failure, -, rfl⟩ := List.mem_map.mp member
      rfl
  · rcases List.mem_pair.mp member with rfl | rfl <;> rfl
  · obtain rfl := List.mem_singleton.mp member
    rfl

theorem filter_analyze_eq_nil {p : Event → Bool}
    (plain : ∀ {event : Event}, p event = true → event.isPlain = true) :
    (plan.analyze path source).events.filter p = [] := by
  rw [List.filter_eq_nil_iff]
  intro event member holds
  have staged := plan.isPlain_of_mem_analyze path source member
  rw [plain holds] at staged
  contradiction

end Plan

/-- The account of a file in a batch: its result, and the one event by which it ends. -/
inductive Account (plan : Plan) (stuck : List String) (file : SourceFile) : FileResult → Event → Prop
  | completed {result : FileResult} (runs : file.path ∉ stuck)
      (analysed : (plan.analyze file.path file.content).result = .ok result) :
      Account plan stuck file result (.fileCompleted file.path result.issues.length)
  | failed {failure : Markup.TokenFailure} (runs : file.path ∉ stuck)
      (failed : (plan.analyze file.path file.content).result = .error failure) :
      Account plan stuck file ⟨file.path, [], [failure.message]⟩
        (.fileFailed file.path failure.message)
  | stuck (never : file.path ∈ stuck) :
      Account plan stuck file ⟨file.path, [], ["Analysis timed out"]⟩
        (.fileFailed file.path "timed out")

namespace Turn

variable (plan : Plan) (stuck : List String) (file : SourceFile)

/-- A turn starts once, when the file runs. -/
theorem filter_isStart_take :
    ((take plan stuck file).events file.path).filter Event.isStart =
      if file.path ∈ stuck then [] else [.fileStarted file.path] := by
  have none := plan.filter_analyze_eq_nil file.path file.content Event.isPlain_of_isStart
  rw [take]
  by_cases never : file.path ∈ stuck
  · rw [if_pos (List.contains_iff_mem.mpr never), if_pos never]
    rfl
  · rw [if_neg (by rwa [List.contains_iff_mem]), if_neg never]
    generalize plan.analyze file.path file.content = run at none ⊢
    obtain ⟨told, outcome⟩ := run
    cases outcome <;> simp [events, List.filter_cons, none]

/-- A turn and what is told when its result is gathered end once, as the account of the file. -/
theorem exists_account : ∃ ending,
    Account plan stuck file ((take plan stuck file).result file.path) ending ∧
      ((take plan stuck file).events file.path).filter Event.isEnd ++
        ((take plan stuck file).failure? file.path).toList.filter Event.isEnd = [ending] := by
  have none := plan.filter_analyze_eq_nil file.path file.content Event.isPlain_of_isEnd
  rw [take]
  by_cases never : file.path ∈ stuck
  · rw [if_pos (List.contains_iff_mem.mpr never)]
    exact ⟨_, .stuck never, rfl⟩
  · rw [if_neg (by rwa [List.contains_iff_mem])]
    cases analysed : plan.analyze file.path file.content with
    | mk told outcome =>
      rw [analysed] at none
      cases outcome with
      | ok result =>
        refine ⟨_, .completed never (congrArg Run.result analysed), ?_⟩
        simp [events, failure?, Turn.result, List.filter_cons, none]
      | error failure =>
        refine ⟨_, .failed never (congrArg Run.result analysed), ?_⟩
        simp [events, failure?, List.filter_cons, none]

theorem isStart_of_failure? {path : String} {turn : Turn} {event : Event}
    (failed : turn.failure? path = some event) : event.isStart = false := by
  rcases turn with _ | ⟨told, _ | _⟩
  · obtain rfl := Option.some.inj failed
    rfl
  · obtain rfl := Option.some.inj failed
    rfl
  · contradiction

end Turn

namespace Plan

variable {plan : Plan} {stuck : List String}

theorem events_analyzeAll (files : List SourceFile) :
    (plan.analyzeAll stuck files).events =
      files.flatMap (fun file => (Turn.take plan stuck file).events file.path) ++
        files.flatMap fun file => ((Turn.take plan stuck file).failure? file.path).toList := by
  rw [analyzeAll, List.flatMap_map, List.filterMap_map, List.filterMap_eq_flatMap_toList]
  rfl

/-- The files that run are started, in order. -/
theorem filter_isStart_analyzeAll (plan : Plan) (files : List SourceFile) :
    (plan.analyzeAll stuck files).events.filter Event.isStart =
      (files.filter fun file => file.path ∉ stuck).map fun file => .fileStarted file.path := by
  have failures (file : SourceFile) :
      ((Turn.take plan stuck file).failure? file.path).toList.filter Event.isStart = [] := by
    rw [List.filter_eq_nil_iff]
    intro event member
    rw [Turn.isStart_of_failure? (Option.mem_toList.mp member)]
    exact Bool.false_ne_true
  rw [events_analyzeAll, List.filter_append, List.filter_flatMap, List.filter_flatMap]
  simp only [failures, Turn.filter_isStart_take]
  induction files with
  | nil => rfl
  | cons file later ih =>
    by_cases never : file.path ∈ stuck
    · simpa [never] using ih
    · simpa [never] using ih

/-- Every file has one end, in its turn or when its result is gathered. -/
theorem filter_isEnd_analyzeAll (plan : Plan) {files : List SourceFile}
    {ending : SourceFile → Event}
    (ends : ∀ file, ((Turn.take plan stuck file).events file.path).filter Event.isEnd ++
      ((Turn.take plan stuck file).failure? file.path).toList.filter Event.isEnd =
        [ending file]) :
    ((plan.analyzeAll stuck files).events.filter Event.isEnd).Perm (files.map ending) := by
  rw [events_analyzeAll, List.filter_append, List.filter_flatMap, List.filter_flatMap]
  -- What is told when results are gathered is put back to the turns of the files.
  refine (List.flatMap_append_perm files _ _).trans (.of_eq ?_)
  simp only [ends]
  exact List.flatMap_pure_eq_map _ _

end Plan

/-! ## Refusal -/

theorem Category.isNone_ofName?_iff {name : String} :
    (ofName? name).isNone = true ↔ ∀ category : Category, category.name ≠ name := by
  rw [Option.isNone_iff_eq_none, Option.eq_none_iff_forall_ne_some]
  exact forall_congr' fun category => not_congr ofName?_eq_some_iff

/-- Anti-patterns cannot be selected by names that are not all those of categories. -/
theorem AntiPattern.fails_select_iff {names : List String} :
    (select names).Fails ↔ ¬ ∀ name ∈ names, ∃ category : Category, category.name = name := by
  constructor
  · rintro ⟨failure, failed⟩ known
    by_cases empty : names = []
    · rw [empty] at failed
      contradiction
    · rw [select_eq_ok empty known] at failed
      contradiction
  · intro unknown
    push Not at unknown
    obtain ⟨name, listed, unknown⟩ := unknown
    have found : name ∈ names.filter fun name => (Category.ofName? name).isNone :=
      List.mem_filter.mpr ⟨listed, Category.isNone_ofName?_iff.mpr unknown⟩
    rw [select, if_neg (by simpa using List.ne_nil_of_mem listed), Category.readAll]
    split
    next nothing =>
      rw [nothing] at found
      exact absurd found List.not_mem_nil
    · exact Except.fails_error

namespace SourceFile

/-- A file is read from a value exactly when the value describes it. -/
theorem read_eq_ok_iff {value : Json} {file : SourceFile} :
    read value = .ok file ↔ Describes value file := by
  refine ⟨fun made => ?_, Describes.read_eq⟩
  unfold read at made
  split at made
  next members =>
    obtain ⟨parts, taken, made⟩ := Except.bind_eq_ok_iff.mp made
    obtain rfl := Except.ok.inj taken
    dsimp only at made
    split at made
    next path content texts =>
      obtain rfl := Except.ok.inj made
      obtain ⟨named, filled⟩ := Prod.mk.inj texts
      exact .object named filled
    · contradiction
  next first second =>
    obtain ⟨parts, taken, made⟩ := Except.bind_eq_ok_iff.mp made
    obtain rfl := Except.ok.inj taken
    dsimp only at made
    split at made
    next path content texts =>
      obtain rfl := Except.ok.inj made
      obtain ⟨rfl, rfl⟩ : first = .string path ∧ second = .string content := by simpa using texts
      exact .pair path content
    · contradiction
  · contradiction

/-- A row of values can be read exactly when each of them describes a file. -/
theorem exists_mapM_read_iff {values : List Json} :
    (∃ files, values.mapM read = .ok files) ↔ ∀ value ∈ values, ∃ file, Describes value file := by
  simp only [← Except.not_fails_iff, Except.fails_mapM_iff, not_exists, not_and]
  refine forall₂_congr fun value _ => Except.not_fails_iff.trans ?_
  exact exists_congr fun file => read_eq_ok_iff

end SourceFile

/-- A plan is made when the values of thresholds are accepted and all names are those of
categories, and only then. -/
theorem Plan.exists_make_iff {overrides : Option Overrides} {names : List String} :
    (∃ plan, make overrides names = .ok plan) ↔
      (∃ thresholds, (overrides.getD []).resolve .standard = .ok thresholds) ∧
        ∀ name ∈ names, ∃ category : Category, category.name = name := by
  have selected : (AntiPattern.select names).Fails ↔
      ¬ ∀ name ∈ names, ∃ category : Category, category.name = name :=
    AntiPattern.fails_select_iff
  have made : (make overrides names).Fails ↔
      ((overrides.getD []).resolve .standard).Fails ∨ (AntiPattern.select names).Fails := by
    refine (Except.fails_bind_or fun thresholds => ?_).trans
      (or_congr_left Except.fails_mapError_iff)
    rw [Except.fails_bind_iff, Except.fails_mapError_iff]
    exact or_iff_left fun ⟨_, _, failed⟩ => Except.not_fails_pure failed
  rw [← Except.not_fails_iff, made, not_or, Except.not_fails_iff, selected, not_not]

namespace BatchRequest

/-- Something about the request is wrong. -/
inductive Refused (request : BatchRequest) : Prop
  | entry {value : Json} (listed : value ∈ request.files)
      (undescribed : ∀ file, ¬ SourceFile.Describes value file)
  | thresholds {failure : OverrideError}
      (rejected : (request.overrides.getD []).resolve .standard = .error failure)
  | category {name : String} (listed : name ∈ request.categories)
      (unknown : ∀ category : Category, category.name ≠ name)
  | workers {n : Int} (waiting : request.files ≠ []) (given : n ∈ request.workers)
      (nobody : n ≤ 0)

variable {request : BatchRequest}

/-- A batch runs when nothing about it is wrong, and only then. -/
theorem exists_run_iff : (∃ run, request.run = .ok run) ↔ ¬ request.Refused := by
  constructor
  · rintro ⟨run, ran⟩ refused
    obtain ⟨files, plan, read, made, enough, -⟩ := run_eq_ok_iff.mp ran
    obtain ⟨⟨thresholds, accepted⟩, known⟩ := Plan.exists_make_iff.mp ⟨plan, made⟩
    -- What is wrong with the request is found by the step that looks at it.
    cases refused with
    | entry listed undescribed =>
      obtain ⟨file, describes⟩ := SourceFile.exists_mapM_read_iff.mp ⟨files, read⟩ _ listed
      exact undescribed file describes
    | thresholds rejected =>
      rw [accepted] at rejected
      contradiction
    | category listed unknown =>
      obtain ⟨category, named⟩ := known _ listed
      exact unknown category named
    | workers waiting given nobody =>
      rcases enough with rfl | enough
      · exact waiting (List.forall₂_nil_right_iff.mp (Except.mapM_eq_ok_iff.mp read))
      · exact Int.not_lt.mpr nobody (enough _ given)
  · intro accepted
    obtain ⟨files, read⟩ := SourceFile.exists_mapM_read_iff.mpr fun value listed =>
      not_forall_not.mp fun undescribed => accepted (.entry listed undescribed)
    have thresholds := Except.not_fails_iff.mp fun ⟨_, rejected⟩ => accepted (.thresholds rejected)
    obtain ⟨plan, made⟩ := Plan.exists_make_iff.mpr ⟨thresholds, fun name listed =>
      not_forall_not.mp fun unknown => accepted (.category listed unknown)⟩
    refine ⟨_, run_eq_ok_iff.mpr ⟨files, plan, read, made, ?_, rfl⟩⟩
    refine or_iff_not_imp_left.mpr fun waiting n given => Int.not_le.mp fun nobody => ?_
    refine accepted (.workers ?_ given nobody)
    rintro none
    rw [none] at read
    exact waiting (Except.ok.inj read).symm

/-- A batch is refused, exactly when something about it is wrong, and then nothing is told and no
check is run; or it comes to its results, and in whatever order what is told for its files comes,
every file that runs is started once, and every file has one end, which is that of its account. -/
theorem refused_or_accounted (request : BatchRequest) :
    (request.Refused ∧ ∃ failure, request.run = .error failure ∧
      request.proceed.run = ⟨[], .error failure⟩) ∨
    ¬ request.Refused ∧ ∃ (files : List SourceFile) (plan : Plan) (run : Run (List FileResult))
        (accounts : List (FileResult × Event)),
      List.Forall₂ SourceFile.Describes request.files files ∧
      Plan.make request.overrides request.categories = .ok plan ∧
      request.run = .ok run ∧ request.proceed.run.run = ⟨run.events, .ok run.result⟩ ∧
      run.result = accounts.map Prod.fst ∧
      List.Forall₂ (fun file account => Account plan request.stuck file account.1 account.2)
        files accounts ∧
      ∀ told : List Event, told.Perm run.events →
        (told.filter Event.isStart).Perm
          ((files.filter fun file => file.path ∉ request.stuck).map fun file =>
            .fileStarted file.path) ∧
        (told.filter Event.isEnd).Perm (accounts.map Prod.snd) := by
  have proceeds := request.run_proceed
  cases ran : request.run with
  | error failure =>
    rw [ran] at proceeds
    refine .inl ⟨not_not.mp fun accepted => ?_, failure, rfl, proceeds⟩
    obtain ⟨run, ran'⟩ := exists_run_iff.mpr accepted
    rw [ran] at ran'
    contradiction
  | ok run =>
    rw [ran] at proceeds
    obtain ⟨files, plan, read, made, -, rfl⟩ := run_eq_ok_iff.mp ran
    -- A file ends in its turn or when its result is gathered; either way it has the one end.
    choose ending account ends using Turn.exists_account plan request.stuck
    refine .inr ⟨exists_run_iff.mp ⟨_, ran⟩, files, plan, _,
      files.map fun file => (plan.share request.stuck file, ending file),
      (Except.mapM_eq_ok_iff.mp read).imp fun _ _ => SourceFile.read_eq_ok_iff.mp, made, rfl,
      proceeds, ?_, ?_, fun told reordered => ⟨?_, ?_⟩⟩
    · rw [Plan.result_analyzeAll, List.map_map]
      rfl
    · rw [List.forall₂_map_right_iff, List.forall₂_same]
      exact fun file _ => account file
    · rw [← plan.filter_isStart_analyzeAll]
      exact reordered.filter _
    · rw [List.map_map]
      exact (reordered.filter _).trans (plan.filter_isEnd_analyzeAll ends)

end BatchRequest

end SfcLint
