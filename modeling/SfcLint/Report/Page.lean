/-
# Reports as pages

The report as a page for a browser. Everything that comes from the analysed files stands on it as
text; the rest of the page depends only on the counts, severities and places of the issues.

A page is a row of pieces: markup, which the report itself writes, and text, which comes from the
analysed files. Text is written with references in place of the five characters that mean
something in markup, so the marks of a page are those of its markup pieces.
-/

import SfcLint.Report.Console
import SfcLint.Report.Moment

namespace SfcLint.Report

/-! ## Pieces of a page -/

/-- A piece of a page. -/
inductive Piece
  | markup (content : Text)
  | text (content : Text)
  deriving DecidableEq, Repr

/-- A character of a text as markup. -/
def escapeChar : Char → Text
  | '&' => "&amp;"
  | '<' => "&lt;"
  | '>' => "&gt;"
  | '"' => "&quot;"
  | '\'' => "&#x27;"
  | c => [c]

/-- A text as markup. -/
def escape (t : Text) : Text := t.flatMap escapeChar

/-- The piece as it stands on the page. -/
def Piece.render : Piece → Text
  | markup content => content
  | text content => escape content

/-- A row of pieces as it stands on the page. -/
def renderPieces (pieces : List Piece) : Text := pieces.flatMap Piece.render

/-- A piece of markup. -/
def mark (content : String) : Piece := .markup content.toList

/-- A piece of text. -/
def say (content : String) : Piece := .text content.toList

/-! ## The page -/

/-- The style rules of a page: what each is for, and what it declares. -/
def style : List (String × List String) :=
  [("body", ["font-family: -apple-system, BlinkMacSystemFont, 'Segoe UI', Roboto, sans-serif",
      "margin: 0", "padding: 20px", "background: #f5f5f5"]),
    (".container", ["max-width: 1200px", "margin: 0 auto", "background: white", "padding: 30px",
      "border-radius: 8px"]),
    (".header", ["text-align: center", "margin-bottom: 30px"]),
    (".summary", ["display: grid", "grid-template-columns: repeat(auto-fit, minmax(200px, 1fr))",
      "gap: 20px", "margin-bottom: 30px"]),
    (".summary-card", ["background: #f8f9fa", "padding: 20px", "border-radius: 6px",
      "text-align: center"]),
    (".summary-card .value", ["font-size: 2em", "font-weight: bold"]),
    (".severity-critical", ["color: #dc3545"]),
    (".severity-high", ["color: #fd7e14"]),
    (".severity-medium", ["color: #ffc107"]),
    (".severity-low", ["color: #28a745"]),
    (".file-result", ["margin-bottom: 30px", "border: 1px solid #e9ecef", "border-radius: 6px",
      "overflow: hidden"]),
    (".file-header", ["background: #f8f9fa", "padding: 15px", "font-weight: bold",
      "border-bottom: 1px solid #e9ecef"]),
    (".issue", ["padding: 15px", "border-bottom: 1px solid #f8f9fa"]),
    (".pattern", ["font-weight: bold", "color: #495057"]),
    (".location", ["color: #6c757d", "font-size: 0.9em"]),
    (".refactoring", ["background: #fff3cd", "padding: 10px", "border-radius: 4px",
      "margin-top: 10px", "border-left: 4px solid #ffc107"]),
    (".footer", ["margin-top: 30px", "padding: 20px", "background: #f8f9fa", "border-radius: 6px"])]

/-- A style rule as it stands on the page. -/
def styleLine (rule : String × List String) : String :=
  "        " ++ rule.1 ++ " \x7b " ++ String.join (rule.2.map (· ++ "; ")) ++ "\x7d"

/-- The name of the style of a severity. -/
def severityClass (severity : Severity) : String :=
  "severity-" ++ String.ofList (Text.lower severity.name.toList)

/-- The refactoring of an issue, if it has one. -/
def refactoringPieces (issue : Issue) : List (List Piece) :=
  match issue.refactoring with
  | some text =>
      if text.isEmpty then []
      else
        [[mark "<div class=\"refactoring\"><strong>💡 Refactoring:</strong> ", say text,
          mark "</div>"]]
  | none => []

/-- The lines about an issue. -/
def issuePieces (issue : Issue) : List (List Piece) :=
  [[mark "<div class=\"issue\">"],
    [mark "<div class=\"pattern ", mark (severityClass issue.severity), mark "\">",
      mark issue.severity.icon, mark " ", mark issue.severity.name, mark ": ", say issue.pattern,
      mark "</div>"],
    [mark "<div>", say issue.message, mark "</div>"],
    [mark s!"<div class=\"location\">Line {issue.position.line}, ",
      mark s!"Column {issue.position.column}</div>"]] ++
  refactoringPieces issue ++
  [[mark "</div>"]]

/-- The lines about the issues of a file, if it has any. -/
def filePieces (result : FileResult) : List (List Piece) :=
  if result.issues.isEmpty then []
  else
    [[mark "<div class=\"file-result\">"],
      [mark "<div class=\"file-header\">📁 ", say result.path, mark "</div>"]] ++
    result.issues.flatMap issuePieces ++
    [[mark "</div>"]]

/-- A card with a count. -/
def card (title : String) (count : Nat) : List Piece :=
  [mark s!"<div class=\"summary-card\"><h3>{title}</h3>",
    mark s!"<div class=\"value\">{count}</div></div>"]

/-- The lines that open the body of a page. -/
def headerPieces (moment : Moment) (summary : Summary) : List (List Piece) :=
  [[mark "<div class=\"header\">"],
    [mark "<h1>🔍 Vue Anti-Pattern Detection Report</h1>"],
    [mark s!"<p>Generated on {moment.plain}</p>"],
    [mark "</div>"],
    [mark "<div class=\"summary\">"],
    card "Files Analyzed" summary.files,
    card "Files with Issues" summary.filesWithIssues,
    card "Total Issues" summary.issues,
    [mark "</div>"]]

/-- The lines with the counts by severity. -/
def countPieces (summary : Summary) : List (List Piece) :=
  if summary.issues = 0 then [[mark "<p>🎉 No issues found!</p>"]]
  else
    [[mark "<h2>Issues by Severity</h2>"], [mark "<ul>"]] ++
    summary.severities.map (fun (severity, count) =>
      [mark s!"<li class=\"{severityClass severity}\">",
        mark s!"<strong>{severity.name}:</strong> {count}</li>"]) ++
    [[mark "</ul>"]]

/-- The lines that close the body of a page. -/
def footerPieces (summary : Summary) : List (List Piece) :=
  [[mark "<div class=\"footer\">"], [mark "<h3>💡 Recommendations</h3>"], [mark "<ul>"]] ++
  summary.recommendations.map (fun (severity, text) =>
    [mark s!"<li class=\"{severityClass severity}\">", say text, mark "</li>"]) ++
  [[mark "<li>Run this tool regularly to maintain code quality</li>"], [mark "</ul>"],
    [mark "</div>"]]

/-- The lines before the body of a page. -/
def openingLines : List String :=
  ["<!DOCTYPE html>", "<html lang=\"en\">", "<head>", "<meta charset=\"UTF-8\">",
    "<meta name=\"viewport\" content=\"width=device-width, initial-scale=1.0\">",
    "<title>Vue Anti-Pattern Detection Report</title>", "<style>"] ++
  style.map styleLine ++
  ["</style>", "</head>", "<body>", "<div class=\"container\">"]

/-- All lines of a page. -/
def pagePieces (moment : Moment) (results : List FileResult) : List (List Piece) :=
  let summary := Summary.ofResults results
  openingLines.map (fun line => [mark line]) ++ headerPieces moment summary ++
    countPieces summary ++ results.flatMap filePieces ++ footerPieces summary ++
    [[mark "</div>"], [mark "</body>"], [mark "</html>"]]

/-- The report as a page. -/
def page (moment : Moment) (results : List FileResult) : String :=
  String.ofList
    (renderPieces ((pagePieces moment results).flatMap fun line => line ++ [mark "\n"]))

end SfcLint.Report
