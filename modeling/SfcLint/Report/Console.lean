/-
# Reports for the terminal

The report as plain lines: the summary, the issues of each file, the errors, and what is
recommended. Refactorings are shown on request.
-/

import SfcLint.Report.Summary

namespace SfcLint

/-- The picture that stands for a severity. -/
def Severity.icon : Severity → String
  | critical => "🚨"
  | high => "⚠️"
  | medium => "ℹ️"
  | low => "✅"

/-- The picture for the name of a severity, or a question mark for any other name. -/
def Severity.iconOfName (name : String) : String :=
  match ofName? name with
  | some severity => severity.icon
  | none => "❓"

namespace Report

/-- The lines about an issue. -/
def issueLines (verbose : Bool) (issue : Issue) : List String :=
  [s!"  {issue.severity.icon} {issue.severity.name}: {issue.message}",
    s!"    Pattern: {issue.pattern}",
    s!"    Location: Line {issue.position.line}, Column {issue.position.column}"] ++
  (match issue.refactoring with
    | some text => if verbose && !text.isEmpty then [s!"    💡 Refactoring: {text}"] else []
    | none => []) ++
  [""]

/-- The lines about the issues of a file, if it has any. -/
def fileLines (verbose : Bool) (result : FileResult) : List String :=
  if result.issues.isEmpty then []
  else s!"📁 {result.path}" :: result.issues.flatMap (issueLines verbose)

/-- The lines about the errors of a file. -/
def errorLines (result : FileResult) : List String :=
  result.errors.map fun error => s!"⚠️ {result.path}: {error}"

/-- The lines that open a report. -/
def summaryLines (summary : Summary) : List String :=
  ["🔍 Vue Anti-Pattern Detection Report", "", "📊 Summary:",
    s!"  Files analyzed: {summary.files}",
    s!"  Files with issues: {summary.filesWithIssues}",
    s!"  Total issues: {summary.issues}", ""]

/-- The lines with the counts by severity and by anti-pattern, if there are issues. -/
def countLines (summary : Summary) : List String :=
  if summary.issues = 0 then []
  else
    ["🚨 Issues by severity:"] ++
    summary.severities.map (fun (severity, count) => s!"  {severity.name}: {count}") ++
    ["", "🔧 Top issues by pattern:"] ++
    summary.topPatterns.map (fun (pattern, count) => s!"  {pattern}: {count}") ++
    [""]

/-- The lines with what is recommended, if anything is. -/
def recommendationLines (summary : Summary) : List String :=
  if summary.recommendations.isEmpty then []
  else
    ["💡 Recommendations:"] ++
    summary.recommendations.map (fun (_, text) => s!"  • {text}") ++
    [""]

/-- The report for the terminal. -/
def console (verbose : Bool) (results : List FileResult) : String :=
  let summary := Summary.ofResults results
  "\n".intercalate
      (summaryLines summary ++ countLines summary ++ results.flatMap (fileLines verbose) ++
        results.flatMap errorLines ++ recommendationLines summary) ++ "\n"

end Report

end SfcLint
