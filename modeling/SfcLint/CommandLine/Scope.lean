/-
# What a run looks at

A run searches the folders that its patterns start from, and looks at some single places: settings
files, files of variables, and the file for the report. Everything else on the disk is out of its
scope, and so is what a search skips below its start.
-/

import SfcLint.CommandLine.Session

namespace SfcLint

/-- Where a run searches, and the single paths that it looks at. -/
structure Scope where
  searched : List Path
  visited : List Path

namespace Scope

/-- The paths that every run may look at. -/
def common (home : Path) : List Path :=
  [Path.ofText Settings.configName.toList, Path.ofText Settings.variableFileName.toList,
    ⟨home.root, home.parts ++ [".vue-analysis".toList, "config.json".toList]⟩]

/-- A named path, with a tilde at its start replaced by the home folder. -/
def named (home : Path) (name : Option String) : List Path :=
  ((Settings.nonempty? name).map fun name =>
    let path := Path.ofText name.toList
    if path.parts.head? == some ['~'] then ⟨home.root, home.parts ++ path.parts.drop 1⟩
    else path).toList

/-- Where a pattern starts. -/
def start (pattern : Text) : Path :=
  if pattern.isWildcard then Glob.base pattern else Path.ofText pattern

/-- The scope of a command line. -/
def ofWords (home : Path) (words : List String) : Scope :=
  match CommandLine.read (words.map String.toList) with
  | .error _ => ⟨[], []⟩
  | .ok invocation =>
      let visited := common home ++ named home invocation.variableFile
      match invocation.command with
      | some (.analyze options) =>
          ⟨(options.patterns.flatMap Search.splitPatterns).map start,
            visited ++ named home options.config ++ named home options.output⟩
      | _ => ⟨[], visited⟩

end Scope

end SfcLint
