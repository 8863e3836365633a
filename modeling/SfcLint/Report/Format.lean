/-
# Report formats

A report is written for the terminal, as data, or as a page for a browser. As data it holds the
summary, the results, the moment at which it was made and the name of the tool.
-/

import SfcLint.Json.Printer
import SfcLint.Report.Page

namespace SfcLint

/-- The forms of a report. -/
inductive ReportFormat
  | console
  | json
  | html
  deriving DecidableEq, Repr

namespace ReportFormat

/-- All forms of a report. -/
def every : List ReportFormat := [console, json, html]

/-- The name of a form. -/
def name : ReportFormat → String
  | console => "console"
  | json => "json"
  | html => "html"

/-- The form of a name. -/
def ofName? (name : String) : Option ReportFormat := every.find? (·.name == name)

/-- There is no form of a name. -/
structure UnknownName where
  name : String
  deriving DecidableEq, Repr

/-- How an unknown name is reported. -/
def UnknownName.message (failure : UnknownName) : String :=
  "Unknown report format: " ++ failure.name ++ ". Valid: " ++
    (Json.list (every.map fun format => .string format.name)).shown

/-- The form of a name, or the name that has none. -/
def read (name : String) : Except UnknownName ReportFormat :=
  match ofName? name with
  | some format => .ok format
  | none => .error ⟨name⟩

end ReportFormat

namespace Report

/-- The name that reports give to the tool. -/
def toolName : String := "vue-anti-pattern-detector"

/-- The report as a data value. -/
def data (moment : Moment) (results : List FileResult) : Json :=
  .object [
    ("summary", (Summary.ofResults results).toJson),
    ("results", .list (results.map FileResult.toJson)),
    ("generatedAt", .string moment.stamp),
    ("tool", .string toolName)]

/-- The report in one of its forms. -/
def render (format : ReportFormat) (verbose : Bool) (moment : Moment)
    (results : List FileResult) : String :=
  match format with
  | .console => console verbose results
  | .json => (data moment results).pretty
  | .html => page moment results

end Report

end SfcLint
