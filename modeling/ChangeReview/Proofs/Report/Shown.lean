import ChangeReview.Proofs.Text.Written
import ChangeReview.Report

/-!
# How a finding is shown

What a reader is to see of a finding: in a table its severity, path, line, rule and message in a
cell each, and in the text report the same without the path on one line. `Report.tableRow_eq_rowOf`
and `Report.violationLine_eq` say that the reports show just this.

## Main definitions

- `Report.rowOf`: the row of a finding, made of its cells.
- `Report.lineOf`: the line of a finding.
-/

namespace ChangeReview.Report

/-- The mark of a severity in a table. -/
def mark : Severity → Text
  | .error => "❌"
  | .warning => "⚠️"

/-- A path with slashes for its backslashes, and a dot if it is empty. -/
def shownPath (path : Path) : Text :=
  if path = [] then ['.'] else path.map fun c => if c = '\\' then '/' else c

/-- A message with a backslash before each bar and a blank for each line feed. -/
def shownMessage (message : Text) : Text :=
  message.flatMap fun c => if c = '|' then ['\\', '|'] else if c = '\n' then [' '] else [c]

/-- The text between backquotes. -/
def quoted (text : Text) : Text := '\x60' :: (text ++ ['\x60'])

/-- What the cells of a table say about a finding. -/
def cells (v : Violation) : List Text :=
  [mark v.severity, quoted (shownPath v.path), Nat.toDigits 10 v.line, quoted v.rule.id,
    shownMessage v.message]

/-- The row of a finding: a bar before its first cell, and one behind each. -/
def rowOf (v : Violation) : Text := '|' :: (cells v).flatMap fun cell => ' ' :: (cell ++ [' ', '|'])

/-- The sign and the word for a severity. -/
def severityLabel : Severity → Text
  | .error => "✗ error"
  | .warning => "⚠ warning"

/-- The line of a finding: its number at the right of four columns, its severity, its message and
its rule. -/
def lineOf (v : Violation) : Text :=
  "  ".toList ++ (Nat.toDigits 10 v.line).leftpad 4 ' ' ++
    "  ".toList ++ severityLabel v.severity ++ "  ".toList ++ v.message ++ "  ".toList ++ v.rule.id

theorem emoji_eq (severity : Severity) : emoji severity = mark severity := by
  cases severity <;> rfl

theorem displayPath_none (path : Path) : displayPath path none = shownPath path := by
  rw [displayPath, Option.bind_none, Option.getD_none, Text.replaceChar_singleton]
  cases path <;> rfl

/-- Bars and line feeds are replaced one after the other, and neither brings forth the other. -/
theorem escapeCell_eq (message : Text) : escapeCell message = shownMessage message := by
  rw [escapeCell, Text.replaceChar, Text.replaceChar, shownMessage, List.flatMap_assoc]
  refine List.flatMap_congr fun c _ => ?_
  by_cases hbar : c = '|'
  · rw [if_pos hbar, if_pos hbar]
    decide
  · rw [if_neg hbar, if_neg hbar, List.flatMap_singleton]

theorem tableRow_eq_rowOf (v : Violation) : tableRow v = rowOf v := by
  rw [tableRow, emoji_eq, displayPath_none, escapeCell_eq]
  simp [Text.concat, rowOf, cells, quoted, Text.ofNat]

theorem violationLine_eq (v : Violation) : violationLine false v = lineOf v := by
  have hlabel : Text.concat [icon v.severity, " ", v.severity.name] = severityLabel v.severity := by
    cases v.severity <;> decide
  rw [violationLine, hlabel]
  simp [Text.concat, lineOf, Color.paint, alignRight, List.leftpad, Text.ofNat]

end ChangeReview.Report
