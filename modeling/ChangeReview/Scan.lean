import ChangeReview.Change
import ChangeReview.Declaration.Recognition
import ChangeReview.Detector
import ChangeReview.Text.Lines

/-!
# Scanning a source file

The detectors look at changed lines only. Declarations are also checked a few lines after a changed
range, because a change of a documentation block moves its declaration just past the hunk.

## Main definitions

- `Recognizer`: how declarations are found on a line.
- `Scan.lineViolations`: the findings on one line.
- `Scan.violations`: the findings of a file, in the order of its lines.
-/

namespace ChangeReview

/-- Finds the declaration on a line with the given number. -/
abbrev Recognizer := Text → Nat → Option Declaration

namespace Scan

/-- The findings of the detectors on a line. -/
def detectorViolations (config : Config) (path : Path) (line : Text) (lineNumber : Nat) :
    List Violation :=
  ((Detector.enabled config.detectors).filter (·.fires line)).map fun detector =>
    { path
      line := lineNumber
      severity := detector.severity
      rule := detector.rule
      message := detector.message
      onChangedLine := true }

/-- The finding for a discrepancy between a declaration and its documentation. -/
def discrepancyViolation (path : Path) (declaration : Declaration) (onChangedLine : Bool)
    (discrepancy : Documentation.Discrepancy) : Violation :=
  { path
    line := declaration.lineNumber
    severity := if discrepancy.isCritical then .error else .warning
    rule := Rule.ofDiscrepancy discrepancy
    message := Text.concat [declaration.subject, ": ", discrepancy.message]
    onChangedLine }

/-- A finding about the declaration itself. -/
def declarationViolation (path : Path) (declaration : Declaration) (onChangedLine : Bool)
    (rule : Rule) (complaint : Text) : Violation :=
  { path
    line := declaration.lineNumber
    severity := .warning
    rule
    message := Text.concat [declaration.subject, " ", complaint]
    onChangedLine }

/-- Whether the access modifier that the configuration requires is missing. -/
def lacksAccessModifier (config : Config) (declaration : Declaration) : Bool :=
  config.documentation.requireAccessModifier && declaration.visibility.isNone

/-- Whether the return type that the configuration requires is missing. -/
def lacksReturnType (config : Config) (declaration : Declaration) : Bool :=
  config.documentation.requireReturnType && declaration.isMethod && !declaration.isSetter &&
    declaration.returnType.isNone

/-- The findings about a declaration and the block above it. -/
def declarationViolations (config : Config) (path : Path) (onChangedLine : Bool)
    (declaration : Declaration) (block : Option DocBlock) : List Violation :=
  (Documentation.discrepancies config.documentation.voidReturn declaration block).map
      (discrepancyViolation path declaration onChangedLine) ++
    (if lacksAccessModifier config declaration then
      [declarationViolation path declaration onChangedLine .missingAccessModifier
        "has no access modifier (public, protected or private)"]
    else []) ++
    if lacksReturnType config declaration then
      [declarationViolation path declaration onChangedLine .missingReturnType
        "has no declared return type"]
    else []

/-- The findings on the line with the given index, counted from zero. -/
def lineViolations (recognize : Recognizer) (config : Config) (path : Path) (lines : List Text)
    (changed : ChangedLines) (line : Text) (index : Nat) : List Violation :=
  let lineNumber := index + 1
  let onChangedLine := changed.contains lineNumber
  (if onChangedLine then detectorViolations config path line lineNumber else []) ++
    if changed.isNear lineNumber config.documentation.nearWindow then
      match recognize line lineNumber with
      | none => []
      | some declaration =>
        declarationViolations config path onChangedLine declaration (DocBlock.above? lines index)
    else []

/-- The findings of a source file, in the order of its lines. -/
def violationsWith (recognize : Recognizer) (config : Config) (path : Path) (content : Text)
    (changed : ChangedLines) : List Violation :=
  if changed.isEmpty then []
  else
    let lines := Text.lines content
    lines.zipIdx.flatMap fun (line, index) =>
      lineViolations recognize config path lines changed line index

/-- The findings of a source file whose declarations are recognised by their lines. -/
def violations : Config → Path → Text → ChangedLines → List Violation :=
  violationsWith Declaration.ofLine?

end Scan

end ChangeReview
