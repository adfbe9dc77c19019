import ChangeReview.Report

/-!
# Reports for code scanning

The report in the Static Analysis Results Interchange Format, version 2.1.0.

## Main definitions

- `Report.sarif`: the report with the rule catalogue.
- `Report.render`: the report in a given form.
-/

namespace ChangeReview.Report

/-- The address of the schema. -/
def sarifSchema : Text :=
  "https://raw.githubusercontent.com/oasis-tcs/sarif-spec/master/Schemata/sarif-schema-2.1.0.json"

/-- A rule of the catalogue. -/
def ruleValue (rule : Rule) : JsonValue :=
  .object
    [("id", .string rule.id),
      ("shortDescription", .object [("text", .string rule.description)])]

/-- The tool with its rule catalogue. -/
def toolValue : JsonValue :=
  .object
    [("driver", .object
      [("name", .string "doc-guard"), ("version", .string "0.1.0"),
        ("rules", .array (Rule.all.map ruleValue))])]

/-- The place of a finding. -/
def locationValue (violation : Violation) : JsonValue :=
  .object
    [("physicalLocation", .object
      [("artifactLocation", .object
        [("uri", .string (displayPath violation.path none)),
          ("uriBaseId", .string "%SRCROOT%")]),
        ("region", .object [("startLine", .number violation.line)])])]

/-- A finding as a result. -/
def resultValue (violation : Violation) : JsonValue :=
  .object
    [("ruleId", .string violation.rule.id),
      ("ruleIndex", .number (Rule.all.idxOf violation.rule)),
      ("level", .string violation.severity.name),
      ("message", .object [("text", .string violation.message)]),
      ("locations", .array [locationValue violation])]

/-- The report for code scanning. -/
def sarif (violations : List Violation) : Text :=
  (JsonValue.object
    [("$schema", .string sarifSchema), ("version", .string "2.1.0"),
      ("runs", .array
        [.object
          [("tool", toolValue), ("results", .array (violations.map resultValue))]])]).pretty

/-- The report in a given form, where only the text report has colours. -/
def render (format : Format) (color : Bool) (violations : List Violation) : Text :=
  match format with
  | .text => text color violations
  | .json => json violations
  | .sarif => sarif violations
  | .markdown => markdown violations

end ChangeReview.Report
