/-
# Counts that add up

A summary is what a walk over the results comes to. Each result counts as a file, and each of its
issues counts once in the total, once under its severity and once under its anti-pattern. So the
three ways to count issues agree at every step, the counts for two rows of results are added when
the rows are joined, and they do not depend on the order of the results.
-/

import Mathlib.Algebra.GroupWithZero.Nat
import Mathlib.Data.List.Induction
import SfcLint.Report.Summary

namespace SfcLint

/-! ## Rows of counts -/

/-- The count that is kept under a key. A key that is missing counts zero. -/
def countOf {κ : Type} [BEq κ] (counts : List (κ × Nat)) (key : κ) : Nat :=
  (counts.lookup key).getD 0

/-- The sum of the counts in a row. -/
def total {κ : Type} (counts : List (κ × Nat)) : Nat := (counts.map Prod.snd).sum

theorem total_cons {κ : Type} (key : κ) (count : Nat) (rest : List (κ × Nat)) :
    total ((key, count) :: rest) = count + total rest := by
  rw [total, List.map_cons, List.sum_cons, total]

theorem countOf_cons (known name : String) (count : Nat) (rest : List (String × Nat)) :
    countOf ((known, count) :: rest) name = if name = known then count else countOf rest name := by
  rw [countOf, List.lookup_cons]
  by_cases same : name = known
  · rw [if_pos same, same, beq_self_eq_true]
    rfl
  · rw [if_neg same, beq_false_of_ne same]
    rfl

theorem countOf_tallyOne (name other : String) (counts : List (String × Nat)) :
    countOf (tallyOne name counts) other =
      countOf counts other + if other = name then 1 else 0 := by
  induction counts with
  | nil => exact (countOf_cons name other 1 []).trans (by simp [countOf])
  | cons first rest ih =>
    obtain ⟨known, count⟩ := first
    rw [tallyOne]
    by_cases same : known = name
    · rw [if_pos same, countOf_cons, countOf_cons, same]
      split <;> rfl
    · rw [if_neg same, countOf_cons, countOf_cons, ih]
      split
      next here => rw [if_neg (here ▸ same), Nat.add_zero]
      next => rfl

theorem total_tallyOne (name : String) (counts : List (String × Nat)) :
    total (tallyOne name counts) = total counts + 1 := by
  induction counts with
  | nil => rfl
  | cons first rest ih =>
    obtain ⟨known, count⟩ := first
    rw [tallyOne]
    split
    next => rw [total_cons, total_cons, Nat.add_right_comm]
    next => rw [total_cons, total_cons, ih, Nat.add_assoc]

/-- One more of a name adds the name only where it is new. -/
theorem keys_tallyOne (name : String) (counts : List (String × Nat)) :
    (tallyOne name counts).map Prod.fst =
      if name ∈ counts.map Prod.fst then counts.map Prod.fst
      else counts.map Prod.fst ++ [name] := by
  induction counts with
  | nil => rfl
  | cons first rest ih =>
    obtain ⟨known, count⟩ := first
    rw [tallyOne]
    by_cases same : known = name
    · rw [if_pos same, if_pos (by simp [same])]
      rfl
    · simp only [if_neg same, List.map_cons, ih, List.mem_cons, Ne.symm same, false_or]
      split <;> rfl

theorem tally_concat (names : List String) (name : String) :
    tally (names ++ [name]) = tallyOne name (tally names) := by
  rw [tally, List.foldl_append]
  rfl

/-- A name is counted as often as it occurs. -/
theorem countOf_tally (names : List String) (name : String) :
    countOf (tally names) name = names.count name := by
  induction names using List.reverseRecOn with
  | nil => rfl
  | append_singleton names last ih =>
    rw [tally_concat, countOf_tallyOne, ih, List.count_append, List.count_singleton]
    simp only [beq_iff_eq, eq_comm (a := name)]

namespace Summary

theorem countOf_every (count : Severity → Nat) (severity : Severity) :
    countOf (Severity.every.map fun level => (level, count level)) severity = count severity := by
  cases severity <;> rfl

theorem countOf_bySeverity (results : List FileResult) (severity : Severity) :
    countOf (ofResults results).bySeverity severity =
      (results.flatMap (·.issues)).countP (·.severity == severity) := by
  rw [ofResults, countOf_every]

theorem countOf_byPattern (results : List FileResult) (pattern : String) :
    countOf (ofResults results).byPattern pattern =
      (results.flatMap (·.issues)).countP (·.pattern == pattern) := by
  rw [ofResults, countOf_tally, List.count, List.countP_map]
  rfl

/-! ## One more result -/

/-- The counts by severity with one more of a severity. -/
def oneMore (severity : Severity) (counts : List (Severity × Nat)) : List (Severity × Nat) :=
  counts.map fun (level, count) => (level, if level = severity then count + 1 else count)

/-- The summary with an issue counted under its severity and its anti-pattern. -/
def withIssue (summary : Summary) (issue : Issue) : Summary :=
  { summary with
    bySeverity := oneMore issue.severity summary.bySeverity
    byPattern := tallyOne issue.pattern summary.byPattern }

/-- The summary with one more result. A result without issues is a file and nothing else. -/
def withResult (summary : Summary) (result : FileResult) : Summary :=
  if result.issues.isEmpty then { summary with files := summary.files + 1 }
  else
    result.issues.foldl withIssue
      { summary with
        files := summary.files + 1
        filesWithIssues := summary.filesWithIssues + 1
        issues := summary.issues + result.issues.length }

theorem foldl_withIssue (issues : List Issue) (count : Severity → Nat) (names : List String)
    (files total filesWithIssues : Nat) :
    issues.foldl withIssue ⟨files, total, Severity.every.map fun level => (level, count level),
        tally names, filesWithIssues⟩ =
      ⟨files, total,
        Severity.every.map fun level => (level, count level + issues.countP (·.severity == level)),
        tally (names ++ issues.map (·.pattern)), filesWithIssues⟩ := by
  -- Induction on the issues: each is added to the count of its severity and to the names.
  induction issues generalizing count names with
  | nil => simp
  | cons issue issues ih =>
    have step : withIssue ⟨files, total, Severity.every.map fun level => (level, count level),
        tally names, filesWithIssues⟩ issue =
          ⟨files, total, Severity.every.map fun level =>
            (level, if level = issue.severity then count level + 1 else count level),
            tally (names ++ [issue.pattern]), filesWithIssues⟩ := by
      rw [withIssue, oneMore, tally_concat, List.map_map]
      rfl
    rw [List.foldl_cons, step, ih, List.map_cons, List.append_assoc, List.singleton_append]
    congr 1
    refine List.map_congr_left fun level _ => ?_
    rw [List.countP_cons]
    by_cases same : level = issue.severity
    · rw [if_pos same, same, beq_self_eq_true, if_pos rfl]
      congr 1
      omega
    · rw [if_neg same, beq_false_of_ne (Ne.symm same), if_neg (by decide)]
      rfl

/-- **The summary is what the walk over the results comes to.** -/
theorem ofResults_concat (results : List FileResult) (result : FileResult) :
    ofResults (results ++ [result]) = (ofResults results).withResult result := by
  rw [withResult]
  split
  next none =>
    have noIssues := List.isEmpty_iff.mp none
    simp [ofResults, noIssues]
  next some =>
    have issues : result.issues ≠ [] := by simpa using some
    simp only [ofResults]
    rw [foldl_withIssue]
    simp [List.countP_append, issues]

/-! ## Counts that agree -/

/-- The counts by severity and those by anti-pattern both come to the number of issues. Each
severity has one count, and so has each anti-pattern that occurs. -/
structure Balanced (summary : Summary) : Prop where
  severities : summary.bySeverity.map Prod.fst = Severity.every
  patterns : (summary.byPattern.map Prod.fst).Nodup
  bySeverity : total summary.bySeverity = summary.issues
  byPattern : total summary.byPattern = summary.issues

theorem keys_oneMore (severity : Severity) (counts : List (Severity × Nat)) :
    (oneMore severity counts).map Prod.fst = counts.map Prod.fst := by
  rw [oneMore, List.map_map]
  rfl

theorem total_oneMore (severity : Severity) (counts : List (Severity × Nat)) :
    total (oneMore severity counts) = total counts + (counts.map Prod.fst).count severity := by
  induction counts with
  | nil => rfl
  | cons first rest ih =>
    obtain ⟨level, count⟩ := first
    have first : oneMore severity ((level, count) :: rest) =
        (level, if level = severity then count + 1 else count) :: oneMore severity rest := rfl
    rw [first, total_cons, total_cons, ih, List.map_cons, List.count_cons]
    by_cases same : level = severity
    · rw [if_pos same, if_pos (by simpa using same)]
      omega
    · rw [if_neg same, if_neg (by simpa using same)]
      omega

theorem count_every (severity : Severity) : Severity.every.count severity = 1 := by
  cases severity <;> rfl

/-- An issue adds one to the counts by severity and one to those by anti-pattern. -/
theorem total_withIssue {summary : Summary}
    (keys : summary.bySeverity.map Prod.fst = Severity.every) (issue : Issue) :
    total (summary.withIssue issue).bySeverity = total summary.bySeverity + 1 ∧
      total (summary.withIssue issue).byPattern = total summary.byPattern + 1 := by
  refine ⟨?_, total_tallyOne issue.pattern summary.byPattern⟩
  rw [withIssue, total_oneMore, keys, count_every]

theorem nodup_keys_tallyOne {counts : List (String × Nat)} (name : String)
    (distinct : (counts.map Prod.fst).Nodup) :
    ((tallyOne name counts).map Prod.fst).Nodup := by
  rw [keys_tallyOne]
  split
  next => exact distinct
  next absent =>
    refine List.nodup_append.mpr ⟨distinct, List.pairwise_singleton _ name, ?_⟩
    rintro known member _ listed rfl
    exact absent (List.mem_singleton.mp listed ▸ member)

/-- The issues of one result are added to the counts by severity and to those by anti-pattern, and
to nothing else. -/
theorem balanced_foldl_withIssue {summary : Summary} (issues : List Issue)
    (severities : summary.bySeverity.map Prod.fst = Severity.every)
    (patterns : (summary.byPattern.map Prod.fst).Nodup)
    (bySeverity : total summary.bySeverity + issues.length = summary.issues)
    (byPattern : total summary.byPattern + issues.length = summary.issues) :
    Balanced (issues.foldl withIssue summary) := by
  -- Induction on the issues that are still to be counted.
  induction issues generalizing summary with
  | nil => exact ⟨severities, patterns, bySeverity, byPattern⟩
  | cons issue issues ih =>
    obtain ⟨one, one'⟩ := total_withIssue severities issue
    rw [List.length_cons] at bySeverity byPattern
    have kept : (summary.withIssue issue).issues = summary.issues := rfl
    refine ih ((keys_oneMore _ _).trans severities) (nodup_keys_tallyOne _ patterns) ?_ ?_
    · omega
    · omega

/-- One more result keeps the counts in step. -/
theorem Balanced.withResult {summary : Summary} (balanced : summary.Balanced)
    (result : FileResult) : (summary.withResult result).Balanced := by
  rw [Summary.withResult]
  split
  next => exact ⟨balanced.severities, balanced.patterns, balanced.bySeverity, balanced.byPattern⟩
  next =>
    refine balanced_foldl_withIssue _ balanced.severities balanced.patterns ?_ ?_
    · exact congrArg (· + result.issues.length) balanced.bySeverity
    · exact congrArg (· + result.issues.length) balanced.byPattern

/-- In every summary of results the counts agree. -/
theorem balanced_ofResults (results : List FileResult) : (ofResults results).Balanced := by
  induction results using List.reverseRecOn with
  | nil => exact ⟨rfl, .nil, rfl, rfl⟩
  | append_singleton results result ih =>
    rw [ofResults_concat]
    exact ih.withResult result

/-! ## Counts of joined results -/

/-- Each count of the first summary is the sum of those of the two others. -/
structure Adds (whole first second : Summary) : Prop where
  files : whole.files = first.files + second.files
  issues : whole.issues = first.issues + second.issues
  filesWithIssues : whole.filesWithIssues = first.filesWithIssues + second.filesWithIssues
  bySeverity : ∀ severity, countOf whole.bySeverity severity =
    countOf first.bySeverity severity + countOf second.bySeverity severity
  byPattern : ∀ pattern, countOf whole.byPattern pattern =
    countOf first.byPattern pattern + countOf second.byPattern pattern

/-- The summaries have the same counts. -/
structure SameCounts (summary summary' : Summary) : Prop where
  files : summary.files = summary'.files
  issues : summary.issues = summary'.issues
  filesWithIssues : summary.filesWithIssues = summary'.filesWithIssues
  bySeverity : ∀ severity,
    countOf summary.bySeverity severity = countOf summary'.bySeverity severity
  byPattern : ∀ pattern, countOf summary.byPattern pattern = countOf summary'.byPattern pattern

theorem adds_ofResults_append (a b : List FileResult) :
    Adds (ofResults (a ++ b)) (ofResults a) (ofResults b) where
  files := List.length_append
  issues := by simp [ofResults]
  filesWithIssues := List.countP_append
  bySeverity severity := by
    simp only [countOf_bySeverity, List.flatMap_append, List.countP_append]
  byPattern pattern := by
    simp only [countOf_byPattern, List.flatMap_append, List.countP_append]

theorem sameCounts_of_perm {a b : List FileResult} (same : a.Perm b) :
    SameCounts (ofResults a) (ofResults b) := by
  have issues : (a.flatMap (·.issues)).Perm (b.flatMap (·.issues)) := same.flatMap_right _
  refine ⟨same.length_eq, issues.length_eq, same.countP_eq _, fun severity => ?_,
    fun pattern => ?_⟩
  · rw [countOf_bySeverity, countOf_bySeverity, issues.countP_eq]
  · rw [countOf_byPattern, countOf_byPattern, issues.countP_eq]

/-- **The counts of a summary agree and add up.** All results are files, and those with an issue are
files with issues. The number of issues in the results is the total, the sum of the counts by
severity and the sum of the counts by anti-pattern, each of which counts its own issues. The counts
for joined rows of results are the sums of those for the rows, and the order of the results does not
matter. -/
theorem counts_add_up :
    (∀ results : List FileResult,
      (ofResults results).files = results.length ∧
      (ofResults results).filesWithIssues = (results.filter (·.issues ≠ [])).length ∧
      (ofResults results).issues = (results.map (·.issues.length)).sum ∧
      (ofResults results).Balanced ∧
      (∀ severity, countOf (ofResults results).bySeverity severity =
        (results.map fun result => result.issues.countP (·.severity = severity)).sum) ∧
      ∀ pattern, countOf (ofResults results).byPattern pattern =
        (results.map fun result => result.issues.countP (·.pattern = pattern)).sum) ∧
    (∀ a b : List FileResult, Adds (ofResults (a ++ b)) (ofResults a) (ofResults b)) ∧
    ∀ a b : List FileResult, a.Perm b → SameCounts (ofResults a) (ofResults b) := by
  refine ⟨fun results => ⟨rfl, ?_, List.length_flatMap, balanced_ofResults results, ?_, ?_⟩,
    adds_ofResults_append, fun a b => sameCounts_of_perm⟩
  · rw [← List.countP_eq_length_filter]
    refine List.countP_congr fun result _ => ?_
    simp
  · intro severity
    rw [countOf_bySeverity, List.countP_flatMap]
    rfl
  · intro pattern
    rw [countOf_byPattern, List.countP_flatMap]
    rfl

/-- Results of three files: one with two issues of one kind, one without issues, and one with an
issue that is no anti-pattern. -/
def threeResults : List FileResult :=
  [⟨"A.vue", [⟨"VFOR_WITHOUT_KEY", .high, "", .start, none⟩,
      ⟨"VFOR_WITHOUT_KEY", .high, "", ⟨2, 5⟩, none⟩], []⟩,
    ⟨"B.vue", [], []⟩,
    ⟨"C.vue", [⟨"PARSE_ERROR", .critical, "", .start, none⟩], []⟩]

/-- The counts of the three results in the other order. -/
theorem counts_add_up_reversed :
    threeResults.Perm threeResults.reverse ∧
      SameCounts (ofResults threeResults) (ofResults threeResults.reverse) ∧
      (ofResults threeResults).byPattern ≠ (ofResults threeResults.reverse).byPattern := by
  have same : threeResults.Perm threeResults.reverse := (List.reverse_perm threeResults).symm
  exact ⟨same, counts_add_up.2.2 _ _ same, by decide⟩

end Summary

end SfcLint
