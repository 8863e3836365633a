/-
# Summaries

A summary counts the files and the issues of an analysis: the issues of each severity, also of
those without any, and the issues of each anti-pattern in the order in which they are first met.
What is recommended follows from the counts by severity.
-/

import SfcLint.Issue.Basic

namespace SfcLint

/-- Counts of names with one more of a name. A new name comes last. -/
def tallyOne (name : String) : List (String × Nat) → List (String × Nat)
  | [] => [(name, 1)]
  | (other, count) :: rest =>
      if other = name then (other, count + 1) :: rest else (other, count) :: tallyOne name rest

/-- How often each name occurs, in the order in which names first occur. -/
def tally (names : List String) : List (String × Nat) :=
  names.foldl (fun counts name => tallyOne name counts) []

/-- The counts of an analysis. -/
structure Summary where
  files : Nat
  issues : Nat
  bySeverity : List (Severity × Nat)
  byPattern : List (String × Nat)
  filesWithIssues : Nat
  deriving DecidableEq, Repr

namespace Summary

/-- The counts for some results. -/
def ofResults (results : List FileResult) : Summary :=
  let issues := results.flatMap (·.issues)
  { files := results.length
    issues := issues.length
    bySeverity := Severity.every.map fun severity =>
      (severity, issues.countP (·.severity == severity))
    byPattern := tally (issues.map (·.pattern))
    filesWithIssues := results.countP fun result => !result.issues.isEmpty }

/-- The severities that occur, with their counts. -/
def severities (summary : Summary) : List (Severity × Nat) :=
  summary.bySeverity.filter fun (_, count) => 0 < count

/-- The ten most frequent anti-patterns. Of those that are equally frequent the first met come
first. -/
def topPatterns (summary : Summary) : List (String × Nat) :=
  (summary.byPattern.mergeSort fun a b => b.2 ≤ a.2).take 10

/-- What to do about issues of a severity, given how many there are. -/
def advice (count : Nat) : Severity → Option String
  | .critical =>
      some s!"Address {count} CRITICAL issues immediately (runtime errors, security risks)"
  | .high =>
      some s!"Fix {count} HIGH priority issues before merge (maintainability, performance)"
  | .medium => some s!"Consider {count} MEDIUM issues in refactoring cycles"
  | .low => none

/-- What to do, with the severity that each advice is about. -/
def recommendations (summary : Summary) : List (Severity × String) :=
  summary.severities.filterMap fun (severity, count) =>
    (advice count severity).map fun text => (severity, text)

/-- The summary as a data value. -/
def toJson (summary : Summary) : Json :=
  .object [
    ("totalFiles", .int summary.files),
    ("totalIssues", .int summary.issues),
    ("issuesBySeverity",
      .object (summary.bySeverity.map fun (severity, count) => (severity.name, .int count))),
    ("issuesByPattern",
      .object (summary.byPattern.map fun (pattern, count) => (pattern, .int count))),
    ("filesWithIssues", .int summary.filesWithIssues)]

end Summary

/-- Some issue of the results is at least as severe as the limit. -/
def reaches (limit : Severity) (results : List FileResult) : Bool :=
  results.any fun result => result.issues.any fun issue => limit.weight ≤ issue.severity.weight

/-- Some issue is at least as severe as the named limit. Without a name there is no limit. -/
def reachesNamed (name : Option String) (results : List FileResult) :
    Except Severity.UnknownName Bool :=
  match name with
  | none => .ok false
  | some name =>
      if name.isEmpty then .ok false
      else (Severity.read name.toList).map fun limit => reaches limit results

end SfcLint
