import ChangeReview.Documentation
import ChangeReview.Path

/-!
# Violations

A violation is one finding on one line of one file.

## Main definitions

- `Severity`, `Rule`: how grave a finding is and which check made it.
- `Violation`: a finding with its place and message.
- `Violation.Summary`: the counts over a list of findings.
-/

namespace ChangeReview

/-- How grave a finding is. -/
inductive Severity where
  | warning
  | error
  deriving DecidableEq, Repr

/-- The word for a severity. -/
def Severity.name : Severity → Text
  | warning => "warning"
  | error => "error"

/-- The check that makes a finding. -/
inductive Rule where
  | debugStatement
  | breakpoint
  | todo
  | fixme
  | missingDocumentation
  | visibilityTag
  | returnTag
  | paramTag
  | reactiveDocFormat
  | missingAccessModifier
  | missingReturnType
  | styleUtility
  | styleLiteral
  deriving DecidableEq, Repr

namespace Rule

/-- All rules, in the order of the rule catalogue. -/
def all : List Rule :=
  [debugStatement, breakpoint, todo, fixme, missingDocumentation, visibilityTag, returnTag,
    paramTag, reactiveDocFormat, missingAccessModifier, missingReturnType, styleUtility,
    styleLiteral]

/-- The identifier that reports show. -/
def id : Rule → Text
  | debugStatement => "doc-guard/debug-statement"
  | breakpoint => "doc-guard/breakpoint"
  | todo => "doc-guard/todo"
  | fixme => "doc-guard/fixme"
  | missingDocumentation => "doc-guard/missing-documentation"
  | visibilityTag => "doc-guard/visibility-tag"
  | returnTag => "doc-guard/return-tag"
  | paramTag => "doc-guard/param-tag"
  | reactiveDocFormat => "doc-guard/reactive-doc-format"
  | missingAccessModifier => "doc-guard/missing-access-modifier"
  | missingReturnType => "doc-guard/missing-return-type"
  | styleUtility => "doc-guard/style-utility"
  | styleLiteral => "doc-guard/style-literal"

/-- One sentence about the rule, for the rule catalogue. -/
def description : Rule → Text
  | debugStatement => "Debug output left in changed code"
  | breakpoint => "Breakpoint statement left in changed code"
  | todo => "TODO marker in changed code"
  | fixme => "FIXME marker in changed code"
  | missingDocumentation => "Declaration has no documentation comment"
  | visibilityTag => "Documentation visibility tag does not match the declaration"
  | returnTag => "Method documentation lacks a return tag"
  | paramTag => "Parameter tags do not match the declared parameters"
  | reactiveDocFormat => "Reactive property documentation is not a one-line comment"
  | missingAccessModifier => "Declaration has no access modifier"
  | missingReturnType => "Method has no declared return type"
  | styleUtility => "Style property has a utility-class equivalent"
  | styleLiteral => "Hardcoded style value"

/-- The rule with an identifier. -/
def ofId? (id : Text) : Option Rule := all.find? (·.id == id)

/-- The rule that a discrepancy breaks. -/
def ofDiscrepancy : Documentation.Discrepancy → Rule
  | .missingDocumentation => missingDocumentation
  | .missingVisibilityTag _ => visibilityTag
  | .multipleVisibilityTags _ => visibilityTag
  | .visibilityTagMismatch .. => visibilityTag
  | .missingReturnTag => returnTag
  | .missingParamTag _ => paramTag
  | .missingParamType _ => paramTag
  | .extraParamTag _ => paramTag
  | .multiLineReactiveDoc => reactiveDocFormat
  | .emptyDescription => reactiveDocFormat

end Rule

/-- One finding on one line of one file. -/
structure Violation where
  /-- The file, as it is shown. -/
  path : Path
  /-- The line in the current version of the file, counted from one. -/
  line : Nat
  /-- How grave the finding is. -/
  severity : Severity
  /-- The check that made it. -/
  rule : Rule
  /-- What is wrong. -/
  message : Text
  /-- Whether the line itself was changed, rather than one shortly before it. -/
  onChangedLine : Bool
  deriving DecidableEq, Repr

namespace Violation

/-- Whether the finding is an error. -/
def isError (violation : Violation) : Bool := violation.severity == .error

/-- Counts over a list of findings. -/
structure Summary where
  total : Nat
  errors : Nat
  warnings : Nat
  files : Nat
  deriving DecidableEq, Repr

/-- The first spelling of each path, in order of appearance. -/
def files (violations : List Violation) : List Path :=
  violations.foldl
    (fun seen v => if seen.any (Path.same v.path) then seen else seen ++ [v.path]) []

/-- The counts over a list of findings. -/
def summarize (violations : List Violation) : Summary :=
  let errors := (violations.filter (·.isError)).length
  { total := violations.length
    errors
    warnings := violations.length - errors
    files := (files violations).length }

/-- Whether nothing was found. -/
def Summary.isClean (summary : Summary) : Bool := summary.total == 0

end Violation

end ChangeReview
