import ChangeReview.JsonValue
import ChangeReview.Report.Color
import ChangeReview.Violation

/-!
# Reports

The forms in which a list of findings is written.

## Main definitions

- `displayPath`: a path as reports show it.
- `Report.text`, `Report.markdown`, `Report.json`: the report in three forms.
- `Report.Format`: the forms that can be asked for.
-/

namespace ChangeReview

/-- A path as reports show it, seen from `root` if it lies under it: with forward slashes, and a dot
for the root itself. -/
def displayPath (path : Path) (root : Option Path) : Text :=
  let relative := (root.bind fun root => Path.strip? root path).getD path
  let shown := Text.replaceChar '\\' ['/'] relative
  if shown.isEmpty then ['.'] else shown

namespace Report

/-- The mark of a severity in the text report. -/
def icon : Severity → Text
  | .error => "✗"
  | .warning => "⚠"

/-- The colour of a severity. -/
def severityColor : Severity → Color
  | .error => .red
  | .warning => .yellow

/-- The text at the right end of a column. -/
def alignRight (width : Nat) (text : Text) : Text :=
  List.replicate (width - text.length) ' ' ++ text

/-- The line of the text report for a finding. -/
def violationLine (color : Bool) (violation : Violation) : Text :=
  let label := Text.concat [icon violation.severity, " ", violation.severity.name]
  Text.concat
    ["  ", alignRight 4 (Text.ofNat violation.line), "  ",
      (severityColor violation.severity).paint color label, "  ", violation.message, "  ",
      Color.dim.paint color violation.rule.id]

/-- The last line of the text report. -/
def summaryLine (color : Bool) (summary : Violation.Summary) : Text :=
  if summary.isClean then Color.green.paint color "✓ No violations found"
  else
    Text.concat
      ["Summary: ", Text.ofNat summary.total, " violations in ", Text.ofNat summary.files,
        if summary.files = 1 then " file (" else " files (",
        Color.red.paint color (Text.ofNat summary.errors), " errors, ",
        Color.yellow.paint color (Text.ofNat summary.warnings), " warnings)"]

/-- The lines of the text report for one file: its heading, its findings and an empty line. -/
def fileLines (color : Bool) (violations : List Violation) (path : Path) : List Text :=
  Color.bold.paint color (displayPath path none) ::
    (violations.filter (Path.same path ·.path)).map (violationLine color) ++ [[]]

/-- The report for readers, with the findings of each file together. -/
def text (color : Bool) (violations : List Violation) : Text :=
  Text.unlines
    ((Violation.files violations).flatMap (fileLines color violations) ++
      [summaryLine color (Violation.summarize violations)])

/-- The mark of a severity in a table or a comment. -/
def emoji : Severity → Text
  | .error => "❌"
  | .warning => "⚠️"

/-- A message inside a table cell, which a bar or a line feed would end. -/
def escapeCell (message : Text) : Text :=
  Text.replaceChar '\n' [' '] (Text.replaceChar '|' ['\\', '|'] message)

/-- The row of the table for a finding. -/
def tableRow (violation : Violation) : Text :=
  Text.concat
    ["| ", emoji violation.severity, " | \x60", displayPath violation.path none, "\x60 | ",
      Text.ofNat violation.line, " | \x60", violation.rule.id, "\x60 | ",
      escapeCell violation.message, " |"]

/-- The sentence above the table. -/
def tableHeadline (summary : Violation.Summary) : Text :=
  Text.concat
    ["Found **", Text.ofNat summary.total, "** violations in **", Text.ofNat summary.files,
      "** files: ", Text.ofNat summary.errors, " errors, ", Text.ofNat summary.warnings,
      " warnings."]

/-- The lines above the rows of the table. -/
def tableHead (summary : Violation.Summary) : List Text :=
  ["## doc-guard report", "", tableHeadline summary, "",
    "| | File | Line | Rule | Message |", "|---|------|-----:|------|---------|"]

/-- The lines of the table report without findings. -/
def cleanTable : List Text :=
  ["## doc-guard report", "", "✅ No violations found in the changed lines."]

/-- The report as a table. -/
def markdown (violations : List Violation) : Text :=
  let summary := Violation.summarize violations
  Text.unlines
    (if summary.isClean then cleanTable else tableHead summary ++ violations.map tableRow)

/-- The counts as a JSON object. -/
def summaryValue (summary : Violation.Summary) : JsonValue :=
  .object
    [("total", .number summary.total), ("errors", .number summary.errors),
      ("warnings", .number summary.warnings), ("files", .number summary.files)]

/-- A finding as a JSON object. -/
def violationValue (violation : Violation) : JsonValue :=
  .object
    [("path", .string violation.path), ("line", .number violation.line),
      ("severity", .string violation.severity.name), ("rule", .string violation.rule.id),
      ("message", .string violation.message)]

/-- The report as a JSON object. -/
def json (violations : List Violation) : Text :=
  (JsonValue.object
    [("summary", summaryValue (Violation.summarize violations)),
      ("violations", .array (violations.map violationValue))]).pretty

/-- The form of a report. -/
inductive Format where
  | text
  | json
  | sarif
  | markdown
  deriving DecidableEq, Repr

end Report

end ChangeReview
