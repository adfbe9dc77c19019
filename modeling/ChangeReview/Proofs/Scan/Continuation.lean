import ChangeReview.Proofs.Comment.Association
import ChangeReview.Proofs.Scan.Findings
import ChangeReview.Proofs.Style.Findings

/-!
# Text below a file

Both scans read a file downward. All that is looked at for a finding, the walk to a documentation
block included, lies on its line or above it. Text put below a file therefore leaves the findings of
the file as they are and adds findings about its own lines only.
-/

namespace ChangeReview

namespace DocBlock

/-- The walk upward from a line does not depend on the lines below it. -/
theorem above?_append_of_lt {lines : List Text} {target : Nat} (h : target < lines.length)
    (lower : List Text) : above? (lines ++ lower) target = above? lines target := by
  have hlength : target < (annotateFrom 0 false lines).length := by
    rwa [length_annotateFrom]
  have habove : (annotate (lines ++ lower)).take target = (annotate lines).take target := by
    rw [annotate_eq, annotate_eq, annotateFrom_append, List.take_append_of_le_length hlength.le]
  have hline : (annotate lines)[target]? = some ((annotateFrom 0 false lines)[target]) := by
    rw [annotate_eq]
    exact List.getElem?_eq_getElem hlength
  rw [above?, above?, habove]
  cases hextent : extent? ((annotate lines).take target).reverse with
  | none => rfl
  | some extent =>
    obtain ⟨shape, first, last⟩ := extent
    -- The block ends above the line, so its text is not taken from the lines below either.
    have hlast : last < target := by
      have hspans := spans_of_above? hline (by rw [above?, hextent]; rfl)
      obtain ⟨hindex, _⟩ := getElem?_annotate_eq_some_iff.mp hline
      exact hindex ▸ hspans.last_lt
    have htext : (lines ++ lower).take (last + 1) = lines.take (last + 1) :=
      List.take_append_of_le_length (by omega)
    simp only [Option.map_some, htext]

end DocBlock

/-- The findings of a file of `count` lines come first among those of a longer one, and all others
are about lines further down. -/
def Violation.IsContinued (count : Nat) (findings longer : List Violation) : Prop :=
  ∃ later, longer = findings ++ later ∧ ∀ v ∈ later, count < v.line

namespace Scan

variable {recognize : Recognizer} {config : Config} {path : Path} {changed : ChangedLines}

theorem lineViolations_append_of_lt {lines : List Text} {index : Nat} (h : index < lines.length)
    (lower : List Text) (line : Text) :
    lineViolations recognize config path (lines ++ lower) changed line index =
      lineViolations recognize config path lines changed line index := by
  rw [lineViolations, lineViolations, DocBlock.above?_append_of_lt h]

theorem isContinued_violationsWith (hrec : recognize.KeepsLineNumber) (content further : Text) :
    Violation.IsContinued (Text.lineCount content)
      (violationsWith recognize config path content changed)
      (violationsWith recognize config path (content ++ '\n' :: further) changed) := by
  rw [violationsWith_eq_flatMap, violationsWith_eq_flatMap, Text.lines_append, List.zipIdx_append,
    List.flatMap_append, Nat.zero_add]
  refine ⟨_, congrArg (· ++ _) ?_, ?_⟩
  · refine List.flatMap_congr fun entry hentry => ?_
    exact lineViolations_append_of_lt (List.snd_lt_of_mem_zipIdx hentry) _ _
  · intro v hv
    obtain ⟨entry, hentry, hv⟩ := List.mem_flatMap.mp hv
    have hindex : (Text.lines content).length ≤ entry.2 := List.le_snd_of_mem_zipIdx hentry
    rw [line_of_mem_lineViolations hrec hv]
    exact Nat.lt_succ_of_le hindex

end Scan

theorem Style.isContinued_violations (table : List Style.Property) (path : Path)
    (content further : Text) (changed : ChangedLines) :
    Violation.IsContinued (Text.lineCount content) (violations table path content changed)
      (violations table path (content ++ '\n' :: further) changed) := by
  rw [violations_eq_violationsFrom, violations_eq_violationsFrom, Text.lines_append,
    violationsFrom_append]
  refine ⟨_, rfl, fun v hv => ?_⟩
  obtain ⟨number, line, hle, _, hv⟩ := exists_of_mem_violationsFrom hv
  rw [(lineViolation?_spec hv).2.1]
  change (Text.lines content).length < number
  omega

/-- Text below a file has no influence on the findings of the file, be it a source or a
stylesheet. -/
theorem Violation.isContinued_append (config : Config) (table : List Style.Property) (path : Path)
    (content further : Text) (changed : ChangedLines) :
    IsContinued (Text.lineCount content) (Scan.violations config path content changed)
        (Scan.violations config path (content ++ '\n' :: further) changed) ∧
      IsContinued (Text.lineCount content) (Style.violations table path content changed)
        (Style.violations table path (content ++ '\n' :: further) changed) :=
  ⟨Scan.isContinued_violationsWith Declaration.ofLine?_keepsLineNumber content further,
    Style.isContinued_violations table path content further changed⟩

end ChangeReview
