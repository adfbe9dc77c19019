import ChangeReview.Proofs.Json.Reading
import ChangeReview.Proofs.Violation.Files
import ChangeReview.Report.Sarif
import Mathlib.Data.List.Forall2

/-!
# Findings read back from reports

A program that reads the JSON report or the report for code scanning finds in it what the report was
made of. `Report.recovered_json_sarif` says so for all findings.

## Main definitions

- `Report.Entry`, `Report.entries?`, `Report.summary?`: what a JSON report says.
- `Report.Result`, `Report.results?`, `Report.ruleIds?`: what a report for code scanning says.
-/

namespace ChangeReview

theorem Rule.mem_all (rule : Rule) : rule ∈ Rule.all := by
  cases rule <;> decide

namespace Report

/-- The severity with a name. -/
def severity? (name : Text) : Option Severity :=
  [Severity.warning, Severity.error].find? (·.name = name)

theorem severity?_name (severity : Severity) : severity? severity.name = some severity := by
  cases severity <;> decide

/-! ## The JSON report -/

/-- A finding in a JSON report. -/
structure Entry where
  path : Path
  line : Nat
  severity : Severity
  ruleId : Text
  message : Text

/-- What a JSON report is to say of a finding. -/
def Entry.of (violation : Violation) : Entry where
  path := violation.path
  line := violation.line
  severity := violation.severity
  ruleId := violation.rule.id
  message := violation.message

/-- The finding that an item of a JSON report describes. -/
def entry? (item : Json) : Option Entry := do
  let path ← (← item.field? "path").text?
  let line ← (← item.field? "line").natural?
  let severity ← severity? (← (← item.field? "severity").text?)
  let ruleId ← (← item.field? "rule").text?
  let message ← (← item.field? "message").text?
  return { path, line, severity, ruleId, message }

/-- The findings in a JSON report. -/
def entries? (report : Json) : Option (List Entry) := do
  (← (← report.field? "violations").items?).mapM entry?

/-- The counts in a JSON report. -/
def summary? (report : Json) : Option Violation.Summary := do
  let total ← (← report.at? ["summary", "total"]).natural?
  let errors ← (← report.at? ["summary", "errors"]).natural?
  let warnings ← (← report.at? ["summary", "warnings"]).natural?
  let files ← (← report.at? ["summary", "files"]).natural?
  return { total, errors, warnings, files }

theorem entry?_violationValue (violation : Violation) :
    entry? (.ofValue (violationValue violation)) = some (Entry.of violation) :=
  calc
    entry? (.ofValue (violationValue violation)) =
        (Json.natural? (.ofValue (.number violation.line))).bind fun line =>
          (severity? violation.severity.name).bind fun severity =>
            some { Entry.of violation with line, severity } := rfl
    _ = _ := by
      rw [Json.natural?_ofValue, severity?_name]
      rfl

theorem entries?_json (violations : List Violation) :
    (Json.read? (json violations)).bind entries? = some (violations.map Entry.of) := by
  rw [json, Json.read?_pretty, Option.bind_some]
  exact Json.mapM_ofItems entry?_violationValue violations

theorem summary?_json (violations : List Violation) :
    (Json.read? (json violations)).bind summary? = some (Violation.summarize violations) := by
  let summary := Violation.summarize violations
  -- The names of the fields are found by evaluation; the counts are not closed terms.
  calc
    (Json.read? (json violations)).bind summary? =
        (Json.natural? (.ofValue (.number summary.total))).bind fun total =>
          (Json.natural? (.ofValue (.number summary.errors))).bind fun errors =>
            (Json.natural? (.ofValue (.number summary.warnings))).bind fun warnings =>
              (Json.natural? (.ofValue (.number summary.files))).bind fun files =>
                some { total, errors, warnings, files } := by
      rw [json, Json.read?_pretty]
      rfl
    _ = _ := by
      simp only [Json.natural?_ofValue, Option.bind_some]
      rfl

/-! ## The report for code scanning -/

/-- A result in a report for code scanning. -/
structure Result where
  ruleId : Text
  /-- The place of the rule in the catalogue of the tool. -/
  ruleIndex : Nat
  level : Severity
  message : Text
  uri : Text
  line : Nat

/-- The result that an item of a report for code scanning describes. It has one location. -/
def result? (item : Json) : Option Result := do
  let ruleId ← (← item.field? "ruleId").text?
  let ruleIndex ← (← item.field? "ruleIndex").natural?
  let level ← severity? (← (← item.field? "level").text?)
  let message ← (← item.at? ["message", "text"]).text?
  let [location] ← (← item.field? "locations").items? | none
  let uri ← (← location.at? ["physicalLocation", "artifactLocation", "uri"]).text?
  let line ← (← location.at? ["physicalLocation", "region", "startLine"]).natural?
  return { ruleId, ruleIndex, level, message, uri, line }

/-- The only run in a report for code scanning. -/
def run? (report : Json) : Option Json := do
  let [run] ← (← report.field? "runs").items? | none
  return run

/-- The results in a report for code scanning. -/
def results? (report : Json) : Option (List Result) := do
  (← (← (← run? report).field? "results").items?).mapM result?

/-- The catalogue of the tool. -/
def rules? (report : Json) : Option (List Json) := do
  (← (← run? report).at? ["tool", "driver", "rules"]).items?

/-- The identifier of a rule in the catalogue. -/
def ruleId? (rule : Json) : Option Text := do (← rule.field? "id").text?

/-- The identifiers of the rules in the catalogue of the tool. -/
def ruleIds? (report : Json) : Option (List Text) := do (← rules? report).mapM ruleId?

/-- The result says what is to be said of the finding, and refers to its rule in the catalogue. -/
structure IsResult (ruleIds : List Text) (violation : Violation) (result : Result) : Prop where
  ruleId : result.ruleId = violation.rule.id
  level : result.level = violation.severity
  message : result.message = violation.message
  uri : result.uri = displayPath violation.path none
  line : result.line = violation.line
  indexed : ruleIds[result.ruleIndex]? = some result.ruleId

/-- What a report for code scanning says of a finding. -/
def Result.of (violation : Violation) : Result where
  ruleId := violation.rule.id
  ruleIndex := Rule.all.idxOf violation.rule
  level := violation.severity
  message := violation.message
  uri := displayPath violation.path none
  line := violation.line

theorem result?_resultValue (violation : Violation) :
    result? (.ofValue (resultValue violation)) = some (Result.of violation) :=
  calc
    result? (.ofValue (resultValue violation)) =
        (Json.natural? (.ofValue (.number (Rule.all.idxOf violation.rule)))).bind fun ruleIndex =>
          (severity? violation.severity.name).bind fun level =>
            (Json.natural? (.ofValue (.number violation.line))).bind fun line =>
              some { Result.of violation with ruleIndex, level, line } := rfl
    _ = _ := by
      rw [Json.natural?_ofValue, severity?_name, Option.bind_some, Option.bind_some,
        Json.natural?_ofValue]
      rfl

theorem results?_sarif (violations : List Violation) :
    (Json.read? (sarif violations)).bind results? = some (violations.map Result.of) := by
  rw [sarif, Json.read?_pretty, Option.bind_some]
  exact Json.mapM_ofItems result?_resultValue violations

theorem ruleId?_ruleValue (rule : Rule) : ruleId? (.ofValue (ruleValue rule)) = some rule.id := rfl

theorem ruleIds?_sarif (violations : List Violation) :
    (Json.read? (sarif violations)).bind ruleIds? = some (Rule.all.map Rule.id) := by
  have hrules : (Json.read? (sarif violations)).bind rules? =
      some (Json.ofItems (Rule.all.map ruleValue)) := by
    rw [sarif, Json.read?_pretty]
    rfl
  calc
    (Json.read? (sarif violations)).bind ruleIds? =
        ((Json.read? (sarif violations)).bind rules?).bind (·.mapM ruleId?) :=
      (Option.bind_assoc _ _ _).symm
    _ = some (Rule.all.map Rule.id) := by
      rw [hrules, Option.bind_some, Json.mapM_ofItems ruleId?_ruleValue]

theorem isResult_of (violation : Violation) :
    IsResult (Rule.all.map Rule.id) violation (Result.of violation) where
  ruleId := rfl
  level := rfl
  message := rfl
  uri := rfl
  line := rfl
  indexed := by
    change (Rule.all.map Rule.id)[Rule.all.idxOf violation.rule]? = some violation.rule.id
    rw [List.getElem?_map, List.getElem?_idxOf (Rule.mem_all _), Option.map_some]

/-- From the JSON report the findings and their counts are recovered, and from the report for code
scanning a result for each finding, with the rule that it refers to. -/
theorem recovered_json_sarif (violations : List Violation) :
    (∃ report summary, Json.read? (json violations) = some report ∧
        entries? report = some (violations.map Entry.of) ∧
        summary? report = some summary ∧ Violation.Counts violations summary) ∧
      ∃ report ruleIds results, Json.read? (sarif violations) = some report ∧
        ruleIds? report = some ruleIds ∧ results? report = some results ∧
        List.Forall₂ (IsResult ruleIds) violations results := by
  refine ⟨?json, ?sarif⟩
  case json =>
    have hentries := entries?_json violations
    have hsummary := summary?_json violations
    rw [json, Json.read?_pretty, Option.bind_some] at hentries hsummary
    exact ⟨_, _, Json.read?_pretty _, hentries, hsummary, Violation.counts_summarize violations⟩
  case sarif =>
    have hrules := ruleIds?_sarif violations
    have hresults := results?_sarif violations
    rw [sarif, Json.read?_pretty, Option.bind_some] at hrules hresults
    refine ⟨_, _, _, Json.read?_pretty _, hrules, hresults, ?_⟩
    rw [List.forall₂_map_right_iff, List.forall₂_same]
    exact fun v _ => isResult_of v

end Report

end ChangeReview
