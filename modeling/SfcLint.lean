import SfcLint.Main
import SfcLint.Proofs.Script.Grammar
import SfcLint.Proofs.Script.Walk
import SfcLint.Proofs.Script.Reading
import SfcLint.Proofs.Pattern.Hits
import SfcLint.Proofs.Script.Matching
import SfcLint.Proofs.Markup.Piece
import SfcLint.Proofs.Markup.Step
import SfcLint.Proofs.Component.Reached
import SfcLint.Proofs.Markup.Mask
import SfcLint.Proofs.Text.Position
import SfcLint.Proofs.Component.Attributes
import SfcLint.Proofs.Markup.Run
import SfcLint.Proofs.Component.Tree
import SfcLint.Proofs.Component.Places
import SfcLint.Proofs.Markup.Reference
import SfcLint.Proofs.Markup.Failure
import SfcLint.Proofs.Markup.Blind
import SfcLint.Proofs.Markup.Veil
import SfcLint.Proofs.Component.Resemblance
import SfcLint.Proofs.Markup.Stretch
import SfcLint.Proofs.Markup.Enclosure
import SfcLint.Proofs.Component.Transparency
import SfcLint.Proofs.Component.Unreadable
import SfcLint.Proofs.Markup.Untouched
import SfcLint.Proofs.Script.Locality
import SfcLint.Proofs.Script.Blanking
import SfcLint.Proofs.Script.Splitting
import SfcLint.Proofs.Pattern.Spelling
import SfcLint.Proofs.Script.MemberHead
import SfcLint.Proofs.Script.KeyPattern
import SfcLint.Proofs.Script.Members
import SfcLint.Proofs.Script.MemberComments
import SfcLint.Proofs.Component.Scripts
import SfcLint.Proofs.Text.Join
import SfcLint.Proofs.Component.ScriptPlaces
import SfcLint.Proofs.Component.Nesting
import SfcLint.Proofs.Component.Outline
import SfcLint.Proofs.Component.TemplateBlock
import SfcLint.Proofs.Component.TemplateNesting
import SfcLint.Proofs.Analysis.Selection
import SfcLint.Proofs.Analysis.Pointwise
import SfcLint.Proofs.Issue.Sorting
import SfcLint.Proofs.Issue.Catalogue
import SfcLint.Proofs.Threshold.Order
import SfcLint.Proofs.Rule.Grades
import SfcLint.Proofs.Rule.Raising
import SfcLint.Proofs.Rule.Totality
import SfcLint.Proofs.Script.Extraction
import SfcLint.Proofs.Script.Sizes
import SfcLint.Proofs.Analysis.Errors
import SfcLint.Proofs.Pattern.Preference
import SfcLint.Proofs.Printing.Tree
import SfcLint.Proofs.Printing.Mask
import SfcLint.Proofs.Printing.Tag
import SfcLint.Proofs.Printing.Element
import SfcLint.Proofs.Printing.RoundTrip
import SfcLint.Proofs.Analysis.Course
import SfcLint.Proofs.Analysis.Isolation
import SfcLint.Proofs.Analysis.Accounts
import SfcLint.Proofs.Threshold.Values
import SfcLint.Proofs.Threshold.Layers
import SfcLint.Proofs.Service.Independence
import SfcLint.Proofs.Service.Allowance
import SfcLint.Proofs.Component.OpenBlock
import SfcLint.Proofs.Json.Members
import SfcLint.Proofs.Settings.Values
import SfcLint.Proofs.Settings.Config
import SfcLint.Proofs.CommandLine.Reporting
import SfcLint.Proofs.Script.Cutting
import SfcLint.Proofs.Script.Stretches
import SfcLint.Proofs.Script.Pieces
import SfcLint.Proofs.Report.Marks
import SfcLint.Proofs.Settings.Acceptance
import SfcLint.Proofs.Script.Surroundings
import SfcLint.Proofs.Script.Layout
import SfcLint.Proofs.Script.Closed
import SfcLint.Proofs.Script.ObjectText
import SfcLint.Proofs.Script.FunctionHead
import SfcLint.Proofs.Script.Expressions
import SfcLint.Proofs.Script.FunctionForms
import SfcLint.Proofs.Pattern.Language
import SfcLint.Proofs.Script.Calls
import SfcLint.Proofs.Script.ClosedLists
import SfcLint.Proofs.Script.Listeners
import SfcLint.Proofs.Script.ArrayDeclaration
import SfcLint.Proofs.Script.TypeMembers
import SfcLint.Proofs.Script.PropsForms
import SfcLint.Proofs.Threshold.Merging
import SfcLint.Proofs.Files.Explicit
import SfcLint.Proofs.Files.Relocation
import SfcLint.Proofs.Report.Counts
import SfcLint.Proofs.Markup.Directives
import SfcLint.Proofs.Markup.Interpolations
import SfcLint.Proofs.Script.Iterations
import SfcLint.Proofs.Rule.Guards
import SfcLint.Proofs.Markup.Traversal
import SfcLint.Proofs.Script.Termination
import SfcLint.Proofs.Text.Case
import SfcLint.Proofs.Files.Skipping
