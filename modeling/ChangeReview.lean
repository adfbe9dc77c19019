import ChangeReview.Change
import ChangeReview.Change.Hunk
import ChangeReview.Check
import ChangeReview.CommandLine
import ChangeReview.CommandLine.Options
import ChangeReview.CommandLine.Parser
import ChangeReview.Comment
import ChangeReview.Comment.Block
import ChangeReview.Config
import ChangeReview.Config.Decode
import ChangeReview.Config.Load
import ChangeReview.Config.Template
import ChangeReview.Config.Validation
import ChangeReview.Decimal.Shortest
import ChangeReview.Declaration
import ChangeReview.Declaration.ParameterList
import ChangeReview.Declaration.Recognition
import ChangeReview.Detector
import ChangeReview.Documentation
import ChangeReview.Documentation.Tag
import ChangeReview.Edit
import ChangeReview.Edit.Placement
import ChangeReview.Edit.Script
import ChangeReview.Edit.Search
import ChangeReview.Edit.Selection
import ChangeReview.Failure
import ChangeReview.FileFilter
import ChangeReview.FileSystem
import ChangeReview.Glob
import ChangeReview.Glob.Parser
import ChangeReview.JsonValue
import ChangeReview.Main
import ChangeReview.Nesting
import ChangeReview.Path
import ChangeReview.Report
import ChangeReview.Report.Color
import ChangeReview.Report.Notice
import ChangeReview.Report.Sarif
import ChangeReview.Repository
import ChangeReview.Repository.Comparison
import ChangeReview.Repository.Digest
import ChangeReview.Repository.HistoryStep
import ChangeReview.Repository.Merge
import ChangeReview.Repository.ObjectName
import ChangeReview.Repository.PathRule
import ChangeReview.Repository.Pathspec
import ChangeReview.Repository.Rename
import ChangeReview.Repository.Revision
import ChangeReview.Repository.Site
import ChangeReview.Review
import ChangeReview.Review.Address
import ChangeReview.Scan
import ChangeReview.Style.Scan
import ChangeReview.Style.Table
import ChangeReview.Text
import ChangeReview.Text.Alphanumeric
import ChangeReview.Text.Blank
import ChangeReview.Text.Digit
import ChangeReview.Text.Identifier
import ChangeReview.Text.Lines
import ChangeReview.Text.Utf8
import ChangeReview.Text.Visible
import ChangeReview.Text.Word
import ChangeReview.Toml
import ChangeReview.Toml.Document
import ChangeReview.Toml.Quoted
import ChangeReview.Toml.Scalar
import ChangeReview.Toml.Table
import ChangeReview.Tree
import ChangeReview.Violation
import ChangeReview.Workspace
import ChangeReview.Proofs.Scan.Findings
import ChangeReview.Proofs.Scan.Windows
import ChangeReview.Proofs.Comment.Reading
import ChangeReview.Proofs.Comment.Walk
import ChangeReview.Proofs.Scan.Translation
import ChangeReview.Proofs.Change.HunkHeader
import ChangeReview.Proofs.Change.ZeroContext
import ChangeReview.Proofs.Nesting.Balance
import ChangeReview.Proofs.Text.Name
import ChangeReview.Proofs.Declaration.Parameters
import ChangeReview.Proofs.Comment.BlockAbove
import ChangeReview.Proofs.Declaration.MethodLine
import ChangeReview.Proofs.Documentation.TagLines
import ChangeReview.Proofs.Documentation.Agreement
import ChangeReview.Proofs.Documentation.DocumentedMethod
import ChangeReview.Proofs.Scan.DocumentedMember
import ChangeReview.Proofs.Check.AddedLines
import ChangeReview.Proofs.Check.Roots
import ChangeReview.Proofs.Comment.Association
import ChangeReview.Proofs.Review.Anchors
import ChangeReview.Proofs.Style.Findings
import ChangeReview.Proofs.Check.Isolation
import ChangeReview.Proofs.Config.Validity
import ChangeReview.Proofs.Scan.Continuation
import ChangeReview.Proofs.Scan.Settings
import ChangeReview.Proofs.Comment.Location
import ChangeReview.Proofs.Text.Identifier
import ChangeReview.Proofs.Nesting.Pieces
import ChangeReview.Proofs.Declaration.WrittenParameter
import ChangeReview.Proofs.Declaration.LiteralDefault
import ChangeReview.Proofs.Declaration.Recognition
import ChangeReview.Proofs.Declaration.DeclaredLine
import ChangeReview.Proofs.Declaration.ReturnType
import ChangeReview.Proofs.Nesting.Replacement
import ChangeReview.Proofs.Declaration.LiteralContent
import ChangeReview.Proofs.Declaration.LiteralSite
import ChangeReview.Proofs.Documentation.ParameterTags
import ChangeReview.Proofs.Documentation.Exemption
import ChangeReview.Proofs.Documentation.LineOrder
import ChangeReview.Proofs.Documentation.RenamedParameter
import ChangeReview.Proofs.Scan.Order
import ChangeReview.Proofs.Style.Comments
import ChangeReview.Proofs.Style.Restriction
import ChangeReview.Proofs.Text.Written
import ChangeReview.Proofs.Violation.Files
import ChangeReview.Proofs.Json.Token
import ChangeReview.Proofs.Json.Reading
import ChangeReview.Proofs.Report.Shown
import ChangeReview.Proofs.Report.Table
import ChangeReview.Proofs.Report.Recovery
import ChangeReview.Proofs.Report.Sections
import ChangeReview.Proofs.Report.Coloring
import ChangeReview.Proofs.Scan.LineEnds
import ChangeReview.Proofs.Text.ByteOrder
import ChangeReview.Proofs.Path.Order
import ChangeReview.Proofs.Tree.Leaves
import ChangeReview.Proofs.Repository.ChangedFiles
import ChangeReview.Proofs.Check.VisitOrder
import ChangeReview.Proofs.Change.Announced
import ChangeReview.Proofs.Change.WindowSums
import ChangeReview.Proofs.Comment.Lexing
import ChangeReview.Proofs.Nesting.Nested
import ChangeReview.Proofs.Nesting.Segments
