import ChangeReview.Scan
import Mathlib.Data.List.Basic

/-!
# The findings of a scan, line by line

The scan goes over the lines of a file and looks at each through two windows. This module says what
one line contributes: the findings of the detectors, then the findings about a declaration on it.
`Scan.violationsWith_eq_flatMap` joins the lines, whether or not anything changed.
-/

namespace ChangeReview

/-- Whether a detector of single lines makes the finding. -/
def Rule.byDetector (rule : Rule) : Bool := Detector.all.any (·.rule == rule)

/-- A recogniser that hands on the number of the line it was given. -/
def Recognizer.KeepsLineNumber (recognize : Recognizer) : Prop :=
  ∀ line lineNumber declaration,
    recognize line lineNumber = some declaration → declaration.lineNumber = lineNumber

theorem Detector.rule_byDetector (detector : Detector) : detector.rule.byDetector = true := by
  cases detector <;> rfl

theorem Rule.ofDiscrepancy_not_byDetector (discrepancy : Documentation.Discrepancy) :
    (Rule.ofDiscrepancy discrepancy).byDetector = false := by
  cases discrepancy <;> rfl

namespace Declaration

theorem method?_lineNumber {text : Text} {lineNumber : Nat} {declaration : Declaration}
    (h : method? text lineNumber = some declaration) : declaration.lineNumber = lineNumber := by
  simp only [method?, Option.bind_eq_bind, Option.bind_eq_some_iff] at h
  obtain ⟨_, _, _, _, _, _, h⟩ := h
  split at h
  · simp at h
  · simp only [Option.bind_eq_some_iff, Option.some.injEq] at h
    obtain ⟨_, _, _, _, rfl⟩ := h
    rfl

theorem reactive?_lineNumber {text : Text} {lineNumber : Nat} {declaration : Declaration}
    (h : reactive? text lineNumber = some declaration) : declaration.lineNumber = lineNumber := by
  simp only [reactive?, Option.bind_eq_bind, Option.bind_eq_some_iff, Option.some.injEq] at h
  obtain ⟨_, _, _, _, _, _, _, _, rfl⟩ := h
  rfl

/-- Both shapes of declarations bear the number of their line. -/
theorem ofLine?_keepsLineNumber : Recognizer.KeepsLineNumber ofLine? := by
  intro line lineNumber declaration h
  simp only [ofLine?, Option.orElse_eq_orElse, Option.orElse_eq_or, Option.or_eq_some_iff] at h
  rcases h with h | ⟨_, h⟩
  · exact method?_lineNumber h
  · exact reactive?_lineNumber h

end Declaration

namespace ChangedLines

theorem contains_eq_true_iff {changed : ChangedLines} {line : Nat} :
    changed.contains line = true ↔ ∃ r ∈ changed.ranges, r.first ≤ line ∧ line ≤ r.last := by
  simp [contains, LineRange.contains]

theorem isNear_eq_true_iff {changed : ChangedLines} {line margin : Nat} :
    changed.isNear line margin = true ↔
      ∃ r ∈ changed.ranges, r.first ≤ line ∧ line ≤ wrap (r.last + margin) := by
  simp [isNear, LineRange.isNear]

/-- No window that ends `margin` lines after a range comes up to the bound of machine words. -/
def Fits (changed : ChangedLines) (margin : Nat) : Prop :=
  ∀ range ∈ changed.ranges, range.last + margin < numberBound

instance (changed : ChangedLines) (margin : Nat) : Decidable (changed.Fits margin) :=
  inferInstanceAs (Decidable (∀ range ∈ changed.ranges, range.last + margin < numberBound))

theorem Fits.of_le {changed : ChangedLines} {margin less : Nat} (h : changed.Fits margin)
    (hless : less ≤ margin) : changed.Fits less := by
  intro range hrange
  have hbound := h range hrange
  omega

/-- A window that fits ends where the exact sum says. -/
theorem Fits.isNear_eq_true_iff {changed : ChangedLines} {line margin : Nat}
    (h : changed.Fits margin) : changed.isNear line margin = true ↔
      ∃ r ∈ changed.ranges, r.first ≤ line ∧ line ≤ r.last + margin := by
  rw [ChangedLines.isNear_eq_true_iff]
  refine exists_congr fun range => and_congr_right fun hrange => ?_
  rw [wrap_of_lt (h range hrange)]

theorem Fits.isNear_of_contains {changed : ChangedLines} {line margin : Nat}
    (hfits : changed.Fits margin) (h : changed.contains line = true) :
    changed.isNear line margin = true := by
  obtain ⟨range, hrange, hfirst, hlast⟩ := contains_eq_true_iff.mp h
  exact hfits.isNear_eq_true_iff.mpr ⟨range, hrange, hfirst, by omega⟩

theorem wholeFile_contains {count line : Nat} (hpos : 1 ≤ line) (hle : line ≤ count) :
    (wholeFile count).contains line = true := by
  have hcount : count ≠ 0 := by omega
  simp [wholeFile, contains, LineRange.contains, hcount, hpos, hle]

end ChangedLines

namespace Scan

variable {recognize : Recognizer} {config : Config} {path : Path} {lines : List Text}
  {changed : ChangedLines} {line : Text} {index : Nat}

/-- The findings about a declaration that the line with the given index begins. -/
def declarationFindings (recognize : Recognizer) (config : Config) (path : Path)
    (lines : List Text) (onChangedLine : Bool) (line : Text) (index : Nat) : List Violation :=
  match recognize line (index + 1) with
  | none => []
  | some declaration =>
    declarationViolations config path onChangedLine declaration (DocBlock.above? lines index)

theorem lineViolations_eq :
    lineViolations recognize config path lines changed line index =
      (if changed.contains (index + 1) then detectorViolations config path line (index + 1)
        else []) ++
      if changed.isNear (index + 1) config.documentation.nearWindow then
        declarationFindings recognize config path lines (changed.contains (index + 1)) line index
      else [] := rfl

/-- An empty set of changed lines is no special case: no window of it holds a line. -/
theorem violationsWith_eq_flatMap (content : Text) :
    violationsWith recognize config path content changed =
      (Text.lines content).zipIdx.flatMap fun entry =>
        lineViolations recognize config path (Text.lines content) changed entry.1 entry.2 := by
  unfold violationsWith
  split
  · next hempty =>
    have hranges : changed.ranges = [] := by simpa [ChangedLines.isEmpty] using hempty
    symm
    apply List.flatMap_eq_nil_iff.mpr
    intro entry _
    simp [lineViolations_eq, ChangedLines.contains, ChangedLines.isNear, hranges]
  · rfl

theorem detectorViolations_spec {lineNumber : Nat} {v : Violation}
    (hv : v ∈ detectorViolations config path line lineNumber) :
    v.line = lineNumber ∧ v.rule.byDetector = true ∧ v.onChangedLine = true := by
  simp only [detectorViolations, List.mem_map] at hv
  obtain ⟨detector, _, rfl⟩ := hv
  exact ⟨rfl, detector.rule_byDetector, rfl⟩

/-- A finding about a declaration is a discrepancy with its documentation, or one of the two
requirements on the declaration itself. -/
theorem mem_declarationViolations {onChangedLine : Bool} {declaration : Declaration}
    {block : Option DocBlock} {v : Violation}
    (hv : v ∈ declarationViolations config path onChangedLine declaration block) :
    (∃ discrepancy, v = discrepancyViolation path declaration onChangedLine discrepancy) ∨
      ∃ rule complaint, (rule = .missingAccessModifier ∨ rule = .missingReturnType) ∧
        v = declarationViolation path declaration onChangedLine rule complaint := by
  simp only [declarationViolations, List.mem_append, List.mem_map] at hv
  rcases hv with (⟨discrepancy, _, rfl⟩ | hv) | hv
  · exact .inl ⟨discrepancy, rfl⟩
  · split at hv
    · exact .inr ⟨_, _, .inl rfl, List.mem_singleton.mp hv⟩
    · cases hv
  · split at hv
    · exact .inr ⟨_, _, .inr rfl, List.mem_singleton.mp hv⟩
    · cases hv

theorem declarationViolations_spec {onChangedLine : Bool} {declaration : Declaration}
    {block : Option DocBlock} {v : Violation}
    (hv : v ∈ declarationViolations config path onChangedLine declaration block) :
    v.line = declaration.lineNumber ∧ v.rule.byDetector = false ∧
      v.onChangedLine = onChangedLine := by
  rcases mem_declarationViolations hv with ⟨discrepancy, rfl⟩ | ⟨_, _, rfl | rfl, rfl⟩
  · exact ⟨rfl, Rule.ofDiscrepancy_not_byDetector discrepancy, rfl⟩
  · exact ⟨rfl, rfl, rfl⟩
  · exact ⟨rfl, rfl, rfl⟩

theorem declarationFindings_spec (hrec : recognize.KeepsLineNumber) {onChangedLine : Bool}
    {v : Violation}
    (hv : v ∈ declarationFindings recognize config path lines onChangedLine line index) :
    v.line = index + 1 ∧ v.rule.byDetector = false ∧ v.onChangedLine = onChangedLine := by
  unfold declarationFindings at hv
  split at hv
  · cases hv
  · next declaration hdeclaration =>
    obtain ⟨hline, hrule, hflag⟩ := declarationViolations_spec hv
    exact ⟨hline.trans (hrec _ _ _ hdeclaration), hrule, hflag⟩

/-- A finding on a line comes from a detector or is about the declaration on the line. -/
theorem mem_lineViolations {v : Violation}
    (hv : v ∈ lineViolations recognize config path lines changed line index) :
    v ∈ detectorViolations config path line (index + 1) ∨
      ∃ declaration, recognize line (index + 1) = some declaration ∧
        v ∈ declarationViolations config path (changed.contains (index + 1)) declaration
          (DocBlock.above? lines index) := by
  rw [lineViolations_eq, List.mem_append] at hv
  rcases hv with hv | hv <;> split at hv
  · exact .inl hv
  · cases hv
  · rw [declarationFindings] at hv
    split at hv
    · cases hv
    · next declaration hdeclaration => exact .inr ⟨declaration, hdeclaration, hv⟩
  · cases hv

/-- Every finding on a line bears its mark. -/
theorem onChangedLine_of_mem_lineViolations {v : Violation}
    (hv : v ∈ lineViolations recognize config path lines changed line index) :
    v.onChangedLine = changed.contains (index + 1) := by
  rw [lineViolations_eq, List.mem_append] at hv
  rcases hv with hv | hv
  · split at hv
    · next hchanged => exact (detectorViolations_spec hv).2.2.trans hchanged.symm
    · cases hv
  · split at hv
    · unfold declarationFindings at hv
      split at hv
      · cases hv
      · exact (declarationViolations_spec hv).2.2
    · cases hv

/-- Every finding on a line bears the number of that line. -/
theorem line_of_mem_lineViolations (hrec : recognize.KeepsLineNumber) {v : Violation}
    (hv : v ∈ lineViolations recognize config path lines changed line index) :
    v.line = index + 1 := by
  rcases mem_lineViolations hv with hv | ⟨declaration, hdeclaration, hv⟩
  · exact (detectorViolations_spec hv).1
  · exact (declarationViolations_spec hv).1.trans (hrec _ _ _ hdeclaration)

end Scan

end ChangeReview
