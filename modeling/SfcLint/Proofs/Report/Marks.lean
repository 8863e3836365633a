/-
# The marks of a page

Angle brackets and quotation marks make the markup of a page. Text is written without them, so the
marks of a page are those of the pieces that the report writes itself. These depend on the shape of
the results alone: on how many files and issues there are, and for an issue on its severity, its
place and whether a refactoring is shown with it. No text of an analysed file makes, ends or breaks
a tag.
-/

import Mathlib.Data.List.Forall2
import SfcLint.Report.Page

namespace SfcLint

/-! ## The shape of results -/

/-- There is a refactoring to be shown. An empty one counts as none. -/
def Issue.hasRefactoring (issue : Issue) : Bool :=
  match issue.refactoring with
  | some text => !text.isEmpty
  | none => false

/-- Issues that differ only in their texts. -/
structure Issue.SameShape (issue issue' : Issue) : Prop where
  severity : issue.severity = issue'.severity
  position : issue.position = issue'.position
  refactoring : issue.hasRefactoring = issue'.hasRefactoring

/-- Results that differ only in their path, their errors and the texts of their issues. -/
def FileResult.SameShape (result result' : FileResult) : Prop :=
  List.Forall₂ Issue.SameShape result.issues result'.issues

theorem map_eq_of_forall₂ {α β : Type} {related : α → α → Prop} {f : α → β} {as bs : List α}
    (all : List.Forall₂ related as bs) (equal : ∀ a b, related a b → f a = f b) :
    as.map f = bs.map f := by
  rw [← List.forall₂_eq_eq_eq]
  exact List.rel_map (fun a b => equal a b) all

theorem FileResult.SameShape.isEmpty_eq {result result' : FileResult}
    (same : result.SameShape result') : result.issues.isEmpty = result'.issues.isEmpty := by
  rw [Bool.eq_iff_iff, List.isEmpty_iff_length_eq_zero, List.isEmpty_iff_length_eq_zero,
    List.Forall₂.length_eq same]

/-- Results of one shape have the same counts, but for those of the anti-patterns. -/
theorem Summary.ofResults_sameShape {results results' : List FileResult}
    (same : List.Forall₂ FileResult.SameShape results results') :
    (ofResults results).files = (ofResults results').files ∧
      (ofResults results).issues = (ofResults results').issues ∧
      (ofResults results).bySeverity = (ofResults results').bySeverity ∧
      (ofResults results).filesWithIssues = (ofResults results').filesWithIssues := by
  have issues : List.Forall₂ Issue.SameShape (results.flatMap (·.issues))
      (results'.flatMap (·.issues)) :=
    List.rel_flatMap same fun _ _ alike => alike
  refine ⟨same.length_eq, issues.length_eq, ?_, ?_⟩
  · have severities := map_eq_of_forall₂ issues fun _ _ alike => alike.severity
    have counted (results : List FileResult) : (ofResults results).bySeverity =
        Severity.every.map fun severity => (severity,
          ((results.flatMap (·.issues)).map (·.severity)).countP (· == severity)) := by
      simp only [List.countP_map]
      rfl
    rw [counted, counted, severities]
  -- A count asks each result, and both rows of results give the same answers.
  · have empties := map_eq_of_forall₂ same fun _ _ alike => alike.isEmpty_eq
    have counted (results : List FileResult) : (ofResults results).filesWithIssues =
        (results.map (·.issues.isEmpty)).countP (!·) := by
      rw [List.countP_map]
      rfl
    rw [counted, counted, empties]

namespace Report

variable {results results' : List FileResult}

/-! ## Marks -/

/-- The characters that begin, end or quote something in markup. -/
def isMark (c : Char) : Bool := c == '<' || c == '>' || c == '"' || c == '\''

/-- The marks of a text, in their order. -/
def marks (t : Text) : Text := t.filter isMark

/-- The marks that a piece has on the page. -/
def Piece.marks : Piece → Text
  | markup content => Report.marks content
  | text _ => []

/-- The marks that some lines have on the page. -/
def lineMarks (lines : List (List Piece)) : Text := lines.flatMap (·.flatMap Piece.marks)

@[simp]
theorem marks_append (front back : Text) : marks (front ++ back) = marks front ++ marks back :=
  List.filter_append ..

@[simp]
theorem lineMarks_nil : lineMarks [] = [] := rfl

@[simp]
theorem lineMarks_cons (line : List Piece) (lines : List (List Piece)) :
    lineMarks (line :: lines) = line.flatMap Piece.marks ++ lineMarks lines := rfl

@[simp]
theorem lineMarks_append (front back : List (List Piece)) :
    lineMarks (front ++ back) = lineMarks front ++ lineMarks back :=
  List.flatMap_append

@[simp]
theorem marks_say (content : String) : (say content).marks = [] := rfl

theorem marks_mark (content : String) : (mark content).marks = marks content.toList := rfl

theorem marks_escape (t : Text) : marks (escape t) = [] := by
  rw [marks, escape, List.filter_flatMap, List.flatMap_eq_nil_iff]
  intro c _
  unfold escapeChar
  split
  case h_6 => simp_all [isMark]
  all_goals decide

/-- Text has no marks on the page, and markup has its own. -/
theorem marks_render (piece : Piece) : marks piece.render = piece.marks := by
  cases piece with
  | markup content => rfl
  | text content => exact marks_escape content

/-- The marks of a page are those of its lines. -/
theorem marks_page (moment : Moment) (results : List FileResult) :
    marks (page moment results).toList = lineMarks (pagePieces moment results) := by
  have pieces (row : List Piece) : marks (renderPieces row) = row.flatMap Piece.marks := by
    rw [marks, renderPieces, List.filter_flatMap]
    exact congrArg row.flatMap (funext marks_render)
  have lineBreak : (mark "\n").marks = [] := rfl
  rw [page, String.toList_ofList, pieces, List.flatMap_assoc]
  simp only [List.flatMap_append, List.flatMap_singleton, lineBreak, List.append_nil]
  rfl

/-! ## The lines of issues and files -/

theorem lineMarks_flatMap {α : Type} (lines : α → List (List Piece)) (items : List α) :
    lineMarks (items.flatMap lines) = items.flatMap fun item => lineMarks (lines item) :=
  List.flatMap_assoc

theorem lineMarks_refactoringPieces (issue : Issue) :
    lineMarks (refactoringPieces issue) =
      if issue.hasRefactoring then
        (mark "<div class=\"refactoring\"><strong>💡 Refactoring:</strong> ").marks ++
          (mark "</div>").marks
      else [] := by
  rw [refactoringPieces, Issue.hasRefactoring]
  cases issue.refactoring with
  | none => rfl
  | some text =>
    dsimp only
    by_cases empty : text.isEmpty
    · rw [if_pos empty, if_neg (by simp [empty]), lineMarks_nil]
    · rw [if_neg empty, if_pos (by simp [empty])]
      simp

theorem lineMarks_issuePieces {issue issue' : Issue} (same : issue.SameShape issue') :
    lineMarks (issuePieces issue) = lineMarks (issuePieces issue') := by
  have refactorings : lineMarks (refactoringPieces issue) =
      lineMarks (refactoringPieces issue') := by
    rw [lineMarks_refactoringPieces, lineMarks_refactoringPieces, same.refactoring]
  rw [issuePieces, issuePieces, same.severity, same.position]
  simp [refactorings]

theorem lineMarks_filePieces {result result' : FileResult} (same : result.SameShape result') :
    lineMarks (filePieces result) = lineMarks (filePieces result') := by
  have issues : lineMarks (result.issues.flatMap issuePieces) =
      lineMarks (result'.issues.flatMap issuePieces) := by
    rw [lineMarks_flatMap, lineMarks_flatMap, List.flatMap_def, List.flatMap_def,
      map_eq_of_forall₂ same fun _ _ => lineMarks_issuePieces]
  rw [filePieces, filePieces, same.isEmpty_eq]
  split
  · rfl
  · simp [issues]

/-! ## The lines around them -/

theorem isMark_of_isDigit {c : Char} (digit : c.isDigit = true) : isMark c = false := by
  refine Bool.eq_false_iff.mpr fun mark => ?_
  simp only [isMark, Bool.or_eq_true, beq_iff_eq] at mark
  rcases mark with ((rfl | rfl) | rfl) | rfl <;> exact absurd digit (by decide)

theorem marks_padded (width number : Nat) : marks (Moment.padded width number).toList = [] := by
  have digits : marks (Nat.toDigits 10 number) = [] := by
    rw [marks, List.filter_eq_nil_iff]
    intro c member
    rw [isMark_of_isDigit (Nat.isDigit_of_mem_toDigits (by decide) (by decide) member)]
    decide
  have zeros (n : Nat) : marks (List.replicate n '0') = [] := by
    rw [marks, List.filter_replicate_of_neg (by decide)]
  have shown : (toString number).toList = Nat.toDigits 10 number := String.toList_ofList
  rw [Moment.padded, String.toList_append, String.toList_ofList, marks_append, zeros, shown, digits]
  rfl

/-- A moment is written without marks. -/
theorem marks_plain (moment : Moment) : marks moment.plain.toList = [] := by
  have join (separator a b c : String) : separator.intercalate [a, b, c] =
      a ++ separator ++ b ++ separator ++ c := rfl
  have dash : marks "-".toList = [] := by decide
  have colon : marks ":".toList = [] := by decide
  have words : marks " ".toList = [] ∧ marks " UTC".toList = [] := by decide
  rw [Moment.plain, Moment.date, Moment.time, join, join]
  simp only [String.toList_append, marks_append, marks_padded, dash, colon, words,
    List.append_nil]

/-- The lines that open a page differ at two moments in what is no mark. -/
theorem lineMarks_headerPieces (moment moment' : Moment) {summary summary' : Summary}
    (files : summary.files = summary'.files) (issues : summary.issues = summary'.issues)
    (filesWithIssues : summary.filesWithIssues = summary'.filesWithIssues) :
    lineMarks (headerPieces moment summary) = lineMarks (headerPieces moment' summary') := by
  have generated (moment : Moment) :
      (mark s!"<p>Generated on {moment.plain}</p>").marks = marks "<p></p>" := by
    have shown : s!"<p>Generated on {moment.plain}</p>" =
        "<p>Generated on " ++ moment.plain ++ "</p>" := rfl
    rw [marks_mark, shown]
    simp only [String.toList_append, marks_append, marks_plain, List.append_nil]
    decide
  rw [headerPieces, headerPieces, files, issues, filesWithIssues]
  simp only [lineMarks_cons, List.flatMap_singleton, generated]

/-- **Nothing can be injected into a page.** The pages about results of one shape have the same
marks, whatever the paths, the anti-patterns, the messages and the refactorings are. -/
theorem marks_page_of_sameShape (moment moment' : Moment)
    (same : List.Forall₂ FileResult.SameShape results results') :
    marks (page moment results).toList = marks (page moment' results').toList := by
  obtain ⟨files, issues, bySeverity, filesWithIssues⟩ := Summary.ofResults_sameShape same
  have severities : (Summary.ofResults results).severities =
      (Summary.ofResults results').severities := by
    rw [Summary.severities, bySeverity]
    rfl
  have header := lineMarks_headerPieces moment moment' files issues filesWithIssues
  -- The counts and what is recommended are written alike, also where they are no marks.
  have counts : countPieces (Summary.ofResults results) =
      countPieces (Summary.ofResults results') := by
    rw [countPieces, countPieces, issues, severities]
  have footer : footerPieces (Summary.ofResults results) =
      footerPieces (Summary.ofResults results') := by
    rw [footerPieces, footerPieces, Summary.recommendations, Summary.recommendations, severities]
  have body : lineMarks (results.flatMap filePieces) = lineMarks (results'.flatMap filePieces) := by
    rw [lineMarks_flatMap, lineMarks_flatMap, List.flatMap_def, List.flatMap_def,
      map_eq_of_forall₂ same fun _ _ => lineMarks_filePieces]
  rw [marks_page, marks_page, pagePieces, pagePieces]
  simp only [lineMarks_append]
  rw [header, counts, body, footer]

/-- A result without any mark. -/
def harmless : FileResult :=
  ⟨"A.vue", [⟨"ANY", .high, "Any is used", ⟨3, 14⟩, some "Name the type"⟩], []⟩

/-- A result whose texts are full of marks. -/
def hostile : FileResult :=
  ⟨"\"><b>.vue", [⟨"</div>", .high, "<script>alert('1')</script>", ⟨3, 14⟩, some "'\">"⟩], ["<"]⟩

/-- Its page has the marks of the page of the other. -/
theorem marks_page_hostile :
    List.Forall₂ FileResult.SameShape [harmless] [hostile] ∧
      marks (page (Moment.ofSeconds 0) [harmless]).toList =
        marks (page (Moment.ofSeconds 86400) [hostile]).toList := by
  have same : List.Forall₂ FileResult.SameShape [harmless] [hostile] :=
    .cons (.cons ⟨rfl, rfl, by decide⟩ .nil) .nil
  exact ⟨same, marks_page_of_sameShape _ _ same⟩

end Report

end SfcLint
