import ChangeReview.Proofs.Scan.Findings

/-!
# The two windows of a scan

A scan of changed lines is the scan of the whole file seen through two windows: the changed lines
for the findings of the detectors, and their neighbourhood for the findings about declarations.
The windows look at line numbers only, so that overlapping, unsorted or inverted ranges are no
special cases. In the scan of the whole file the window must not come up to the bound of machine
words, where it would start again at the first line.
-/

namespace ChangeReview

namespace Violation

/-- Whether the finding lies in the window that its rule is checked in. -/
def inWindow (config : Config) (changed : ChangedLines) (v : Violation) : Bool :=
  if v.rule.byDetector then changed.contains v.line
  else changed.isNear v.line config.documentation.nearWindow

/-- The finding as it stands to other changed lines. -/
def relativeTo (changed : ChangedLines) (v : Violation) : Violation :=
  { v with onChangedLine := changed.contains v.line }

end Violation

namespace Scan

variable {recognize : Recognizer} {config : Config} {path : Path} {lines : List Text}
  {changed : ChangedLines} {line : Text} {index : Nat}

/-- Only the mark of a finding about a declaration depends on whether its line is changed. -/
theorem declarationFindings_map (before after : Bool) :
    (declarationFindings recognize config path lines before line index).map
        (fun v => { v with onChangedLine := after }) =
      declarationFindings recognize config path lines after line index := by
  unfold declarationFindings
  split
  · rfl
  · simp only [declarationViolations, List.map_append, List.map_map]
    congr 1
    · congr 1
      split <;> rfl
    · split <;> rfl

/-- The findings of the detectors on a line lie in the window of changed lines. -/
theorem detectorViolations_filter :
    ((detectorViolations config path line (index + 1)).filter
        (Violation.inWindow config changed)).map (Violation.relativeTo changed) =
      if changed.contains (index + 1) then detectorViolations config path line (index + 1)
      else [] := by
  by_cases hchanged : changed.contains (index + 1) = true
  · rw [if_pos hchanged, List.filter_eq_self.mpr]
    · refine (List.map_congr_left fun v hv => ?_).trans (List.map_id _)
      obtain ⟨hline, _, hflag⟩ := detectorViolations_spec hv
      cases v
      simp_all [Violation.relativeTo]
    · intro v hv
      obtain ⟨hline, hrule, _⟩ := detectorViolations_spec hv
      rw [Violation.inWindow, if_pos hrule, hline, hchanged]
  · rw [if_neg hchanged, List.filter_eq_nil_iff.mpr, List.map_nil]
    intro v hv
    obtain ⟨hline, hrule, _⟩ := detectorViolations_spec hv
    rwa [Violation.inWindow, if_pos hrule, hline]

/-- The findings about a declaration lie in the window of lines near a change. -/
theorem declarationFindings_filter (hrec : recognize.KeepsLineNumber) (onChangedLine : Bool) :
    ((declarationFindings recognize config path lines onChangedLine line index).filter
        (Violation.inWindow config changed)).map (Violation.relativeTo changed) =
      if changed.isNear (index + 1) config.documentation.nearWindow then
        declarationFindings recognize config path lines (changed.contains (index + 1)) line index
      else [] := by
  -- All findings of the line share its number, so that the window takes all of them or none.
  have hwindow : ∀ v ∈ declarationFindings recognize config path lines onChangedLine line index,
      v.inWindow config changed =
        changed.isNear (index + 1) config.documentation.nearWindow := by
    intro v hv
    obtain ⟨hline, hrule, _⟩ := declarationFindings_spec hrec hv
    simp [Violation.inWindow, hrule, hline]
  by_cases hnear : changed.isNear (index + 1) config.documentation.nearWindow = true
  · rw [if_pos hnear, List.filter_eq_self.mpr fun v hv => (hwindow v hv).trans hnear]
    refine (List.map_congr_left fun v hv => ?_).trans (declarationFindings_map onChangedLine _)
    rw [Violation.relativeTo, (declarationFindings_spec hrec hv).1]
  · rw [if_neg hnear, List.filter_eq_nil_iff.mpr, List.map_nil]
    intro v hv
    rwa [hwindow v hv]

/-- On one line of the whole file, the two windows keep what the scan of the changed lines finds. -/
theorem lineViolations_eq_filter (hrec : recognize.KeepsLineNumber) {count : Nat}
    (hfits : (ChangedLines.wholeFile count).Fits config.documentation.nearWindow)
    (hindex : index < count) :
    lineViolations recognize config path lines changed line index =
      ((lineViolations recognize config path lines (ChangedLines.wholeFile count) line index).filter
        (Violation.inWindow config changed)).map (Violation.relativeTo changed) := by
  have hwhole := ChangedLines.wholeFile_contains (Nat.le_add_left 1 index) hindex
  rw [lineViolations_eq, lineViolations_eq, if_pos hwhole, if_pos (hfits.isNear_of_contains hwhole),
    List.filter_append, List.map_append, detectorViolations_filter,
    declarationFindings_filter hrec]

/-- A scan of changed lines is the scan of the whole file through the two windows. -/
theorem violations_eq_filter_wholeFile (config : Config) (path : Path) (content : Text)
    (changed : ChangedLines)
    (hfits : (ChangedLines.wholeFile (Text.lineCount content)).Fits
      config.documentation.nearWindow) :
    violations config path content changed =
      ((violations config path content (ChangedLines.wholeFile (Text.lineCount content))).filter
        (Violation.inWindow config changed)).map (Violation.relativeTo changed) := by
  rw [violations, violationsWith_eq_flatMap, violationsWith_eq_flatMap, List.filter_flatMap,
    List.map_flatMap]
  refine List.flatMap_congr fun entry hentry => ?_
  refine lineViolations_eq_filter Declaration.ofLine?_keepsLineNumber hfits ?_
  exact List.snd_lt_of_mem_zipIdx hentry

/-- The largest window that a file of four lines has room for. -/
def widestConfig : Config := { documentation := { nearWindow := 18446744073709551611 } }

/-- A file with a remark and a method on changed lines, and with others of either beside them. -/
def windowFile : Text := "x; // TODO\nrun(): void \x7b\n  // TODO\nstop(): void \x7b"

/-- Seen from the second line, the remarks are out of the window and the methods are in it. -/
theorem violations_eq_filter_wholeFile_widest :
    (ChangedLines.wholeFile (Text.lineCount windowFile)).Fits
        widestConfig.documentation.nearWindow ∧
      (violations widestConfig "a.ts" windowFile ⟨[⟨2, 2⟩]⟩).map
          (fun v => (v.line, v.rule, v.onChangedLine)) =
        [(2, .missingDocumentation, true), (2, .missingAccessModifier, true),
          (4, .missingDocumentation, false), (4, .missingAccessModifier, false)] ∧
      violations widestConfig "a.ts" windowFile ⟨[⟨2, 2⟩]⟩ =
        ((violations widestConfig "a.ts" windowFile
            (ChangedLines.wholeFile (Text.lineCount windowFile))).filter
          (Violation.inWindow widestConfig ⟨[⟨2, 2⟩]⟩)).map (Violation.relativeTo ⟨[⟨2, 2⟩]⟩) :=
  ⟨by decide, by decide +kernel, violations_eq_filter_wholeFile _ _ _ _ (by decide)⟩

end Scan

end ChangeReview
