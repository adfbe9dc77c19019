import ChangeReview.Proofs.Report.Recovery
import ChangeReview.Proofs.Report.Table

/-!
# The sections of the text report

The text report has a section for each file, in order of first appearance, and after them a line
with the counts. `Report.exists_sections` says what stands in which section, and that the counts are
those of the findings and the same in the other reports.

## Main definitions

- `Report.FileSection`: the part of the text report about one file.
- `Report.IsTextReport`: how findings are sorted into sections.
- `Report.ShowsCounts`, `Report.IsCounted`: how the reports say how much was found.
-/

namespace ChangeReview.Report

open Violation

/-- The part of the text report about one file. -/
structure FileSection where
  path : Path
  violations : List Violation

namespace FileSection

/-- The path with slashes for backslashes, and a dot if it is empty. -/
def heading (file : FileSection) : Text := shownPath file.path

/-- The heading, a line for each finding and an empty line. -/
def lines (file : FileSection) : List Text :=
  file.heading :: file.violations.map lineOf ++ [[]]

end FileSection

/-- The text report has a section for each file, in the order in which the files appear, with the
findings about the file in their order, and a last line. -/
structure IsTextReport (violations : List Violation) (files : List FileSection) (last : Text) :
    Prop where
  lines : Text.splitOnChar '\n' (text false violations) =
    files.flatMap FileSection.lines ++ [last, []]
  firstSpellings : FirstSpellings violations (files.map (·.path))
  violations_eq : ∀ file ∈ files, file.violations = violations.filter (isIn file.path)
  /-- Every finding is in one section and once. -/
  perm : (files.flatMap (·.violations)).Perm violations

/-- The line has the four counts, or it says that nothing was found. -/
structure ShowsCounts (clean : Text) (summary : Summary) (line : Text) : Prop where
  clean : summary.total = 0 → line = clean
  counts : summary.total ≠ 0 →
    line.numbers = [summary.total, summary.files, summary.errors, summary.warnings]

/-- The summary counts the findings, and the reports agree on it: the text report in its last line,
the table report in its third line and the JSON report in its summary. -/
structure IsCounted (violations : List Violation) (summary : Summary) (last : Text) : Prop where
  counts : Counts violations summary
  total_eq : summary.total = summary.errors + summary.warnings
  text : ShowsCounts "✓ No violations found" summary last
  markdown : ∃ headline, (Text.splitOnChar '\n' (markdown violations))[2]? = some headline ∧
    ShowsCounts "✅ No violations found in the changed lines." summary headline
  json : (Json.read? (json violations)).bind summary? = some summary

variable {violations : List Violation} {v : Violation} {summary : Summary}

/-! ## Counts -/

theorem summaryLine_of_ne_zero (h : summary.total ≠ 0) :
    summaryLine false summary =
      Text.concat
        ["Summary: ", Text.ofNat summary.total, " violations in ", Text.ofNat summary.files,
          if summary.files = 1 then " file (" else " files (", Text.ofNat summary.errors,
          " errors, ", Text.ofNat summary.warnings, " warnings)"] := by
  have hclean : ¬ summary.isClean = true := fun hclean => h (beq_iff_eq.mp hclean)
  rw [summaryLine, if_neg hclean]
  rfl

theorem showsCounts_summaryLine (summary : Summary) :
    ShowsCounts "✓ No violations found" summary (summaryLine false summary) where
  clean h := by
    have hclean : summary.isClean = true := beq_iff_eq.mpr h
    rw [summaryLine, if_pos hclean]
    rfl
  counts h := by
    have hfiles : Text.IsWords
        (if summary.files = 1 then " file (".toList else " files (".toList) := by
      split <;> decide
    rw [summaryLine_of_ne_zero h, Text.numbers_words (by decide), Text.numbers_ofNat _ (by decide),
      Text.numbers_ofNat _ hfiles, Text.numbers_ofNat _ (by decide),
      Text.numbers_ofNat _ (by decide)]
    rfl

theorem numbers_tableHeadline (summary : Summary) :
    (tableHeadline summary).numbers =
      [summary.total, summary.files, summary.errors, summary.warnings] := by
  rw [tableHeadline, Text.numbers_words (by decide), Text.numbers_ofNat _ (by decide),
    Text.numbers_ofNat _ (by decide), Text.numbers_ofNat _ (by decide),
    Text.numbers_ofNat _ (by decide)]
  rfl

theorem exists_headline (violations : List Violation) :
    ∃ headline, (Text.splitOnChar '\n' (markdown violations))[2]? = some headline ∧
      ShowsCounts "✅ No violations found in the changed lines." (summarize violations)
        headline := by
  by_cases hempty : violations = []
  · subst hempty
    exact ⟨_, by decide +kernel, fun _ => rfl, fun h => absurd rfl h⟩
  · have hlines := Text.splitOnChar_unlines_append (tableHead (summarize violations))
      (Text.unlines (violations.map tableRow))
    rw [← markdown_eq hempty, flatMap_splitOnChar_tableHead] at hlines
    refine ⟨tableHeadline (summarize violations), by rw [hlines]; rfl, fun h => ?_, fun _ => ?_⟩
    · exact absurd (List.length_eq_zero_iff.mp h) hempty
    · exact numbers_tableHeadline _

/-! ## Lines -/

theorem heading_eq (file : FileSection) : displayPath file.path none = file.heading :=
  displayPath_none file.path

theorem newline_notMem_lineOf (h : '\n' ∉ v.message) : '\n' ∉ lineOf v := by
  rw [← violationLine_eq]
  refine Text.notMem_concat ?_
  simp only [List.forall_mem_cons]
  refine ⟨?_, ?line, ?_, ?label, ?_, h, ?_, (isPlain_id v.rule).newline_notMem, ?_⟩
  case line =>
    rw [alignRight, List.mem_append, not_or]
    refine ⟨fun hblank => ?_, Text.notMem_ofNat (by decide) v.line⟩
    exact absurd (List.eq_of_mem_replicate hblank) (by decide)
  case label => cases v.severity <;> decide
  all_goals decide

theorem newline_notMem_summaryLine (summary : Summary) : '\n' ∉ summaryLine false summary := by
  by_cases h : summary.total = 0
  · rw [(showsCounts_summaryLine summary).clean h]
    decide
  · have hnumber (n : Nat) : '\n' ∉ Text.ofNat n := Text.notMem_ofNat (by decide) n
    rw [summaryLine_of_ne_zero h]
    refine Text.notMem_concat ?_
    simp only [List.forall_mem_cons]
    refine ⟨?_, hnumber _, ?_, hnumber _, ?files, hnumber _, ?_, hnumber _, ?_, ?_⟩
    case files => split <;> decide
    all_goals decide

/-! ## Sections -/

/-- The sections of the text report. -/
def sections (violations : List Violation) : List FileSection :=
  (files violations).map fun path => { path, violations := violations.filter (isIn path) }

theorem lines_section (violations : List Violation) (path : Path) :
    FileSection.lines { path, violations := violations.filter (isIn path) } =
      fileLines false violations path := by
  have hlines : violationLine false = lineOf := funext violationLine_eq
  rw [FileSection.lines, ← heading_eq, ← hlines]
  rfl

theorem text_eq (violations : List Violation) :
    text false violations =
      Text.unlines ((sections violations).flatMap FileSection.lines ++
        [summaryLine false (summarize violations)]) := by
  rw [text, sections, List.flatMap_map]
  congr 2
  exact List.flatMap_congr fun path _ => (lines_section violations path).symm

theorem newline_notMem_lines {file : FileSection} (hpath : '\n' ∉ file.path)
    (hmessages : ∀ v ∈ file.violations, '\n' ∉ v.message) : ∀ line ∈ file.lines, '\n' ∉ line := by
  intro line hline
  rw [FileSection.lines, List.mem_append, List.mem_cons, List.mem_map, List.mem_singleton] at hline
  rcases hline with (rfl | ⟨v, hv, rfl⟩) | rfl
  · rw [← heading_eq]
    exact (newline_mem_displayPath_iff _).not.mpr hpath
  · exact newline_notMem_lineOf (hmessages v hv)
  · exact List.not_mem_nil

theorem map_path_sections (violations : List Violation) :
    (sections violations).map (·.path) = files violations := by
  rw [sections, List.map_map]
  exact List.map_id _

theorem perm_sections (violations : List Violation) :
    ((sections violations).flatMap (·.violations)).Perm violations := by
  rw [sections, List.flatMap_map]
  exact (firstSpellings_files violations).perm

theorem isTextReport_sections (h : ∀ v ∈ violations, '\n' ∉ v.path ∧ '\n' ∉ v.message) :
    IsTextReport violations (sections violations) (summaryLine false (summarize violations)) where
  lines := by
    have hlines : ∀ line ∈ (sections violations).flatMap FileSection.lines ++
        [summaryLine false (summarize violations)], '\n' ∉ line := by
      refine List.forall_mem_append.mpr ⟨fun line hline => ?_, ?_⟩
      · obtain ⟨file, hfile, hline⟩ := List.mem_flatMap.mp hline
        obtain ⟨path, hpath, rfl⟩ := List.mem_map.mp hfile
        -- The path of a section is the path of a finding.
        obtain ⟨v, hv, rfl⟩ := (firstSpellings_files violations).exists_path hpath
        exact newline_notMem_lines (h v hv).1 (fun w hw => (h w (List.mem_filter.mp hw).1).2)
          line hline
      · exact List.forall_mem_singleton.mpr (newline_notMem_summaryLine _)
    rw [text_eq, Text.splitOnChar_unlines hlines, List.append_assoc, List.singleton_append]
  firstSpellings := by
    rw [map_path_sections]
    exact firstSpellings_files violations
  violations_eq file hfile := by
    obtain ⟨path, -, rfl⟩ := List.mem_map.mp hfile
    rfl
  perm := perm_sections violations

theorem isCounted_summarize (violations : List Violation) :
    IsCounted violations (summarize violations) (summaryLine false (summarize violations)) where
  counts := counts_summarize violations
  total_eq := (counts_summarize violations).total_eq
  text := showsCounts_summaryLine _
  markdown := exists_headline violations
  json := summary?_json violations

/-- The text report is made of sections, one for each file, in which each finding is shown once, and
of a line with the counts that are also in the other reports. -/
theorem exists_sections (h : ∀ v ∈ violations, '\n' ∉ v.path ∧ '\n' ∉ v.message) :
    ∃ files last summary, IsTextReport violations files last ∧ IsCounted violations summary last ∧
      files.length = summary.files ∧
      (files.map (·.violations.length)).sum = summary.total := by
  refine ⟨sections violations, _, summarize violations, isTextReport_sections h,
    isCounted_summarize violations, List.length_map _, ?_⟩
  rw [← List.length_flatMap]
  exact (perm_sections violations).length_eq

/-- Findings of two files, one of which is spelled in three ways. -/
def interleavedViolations : List Violation :=
  [⟨"a//b", 3, .warning, .todo, "TODO comment found", true⟩,
    ⟨"src\\c.ts", 1, .error, .breakpoint, "debugger statement found", true⟩,
    ⟨"a/./b", 12, .error, .missingReturnType, "method: no declared return type | void", false⟩,
    ⟨"a/b/", 3, .warning, .fixme, "FIXME", true⟩]

theorem exists_sections_interleaved :
    (∀ v ∈ interleavedViolations, '\n' ∉ v.path ∧ '\n' ∉ v.message) ∧
      ∃ files last summary, IsTextReport interleavedViolations files last ∧
        IsCounted interleavedViolations summary last ∧ files.length = summary.files ∧
        (files.map (·.violations.length)).sum = summary.total :=
  ⟨by decide, exists_sections (by decide)⟩

/-- A finding in a file whose path is spelled with a backslash. -/
def backslashViolation : Violation :=
  ⟨"src\\a.ts", 3, .warning, .todo, "TODO comment found", true⟩

/-- A path is not shown as it is spelled, and a report without findings has no counts. -/
theorem heading_ne_spelling :
    '\n' ∉ backslashViolation.path ∧ '\n' ∉ backslashViolation.message ∧
      backslashViolation.path ∉ Text.splitOnChar '\n' (text false [backslashViolation]) ∧
      (markdown []).numbers = [] := by
  decide +kernel

end ChangeReview.Report
