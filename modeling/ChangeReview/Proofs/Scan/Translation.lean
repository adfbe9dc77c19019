import ChangeReview.Proofs.Comment.Walk
import ChangeReview.Proofs.Scan.Findings

/-!
# Lines above a file

A scan looks at a line, at its number, and at the block above it. Lines put above a file therefore
only move the findings down, as long as no comment reaches into the file and the last of these lines
ends every walk upward.
-/

namespace ChangeReview

/-- The range with `count` more lines above it. -/
def LineRange.shift (count : Nat) (range : LineRange) : LineRange :=
  ⟨range.first + count, range.last + count⟩

/-- The changed lines with `count` more lines above them. -/
def ChangedLines.shift (count : Nat) (changed : ChangedLines) : ChangedLines :=
  ⟨changed.ranges.map (LineRange.shift count)⟩

/-- The declaration with `count` more lines above it. -/
def Declaration.shift (count : Nat) (declaration : Declaration) : Declaration :=
  { declaration with lineNumber := declaration.lineNumber + count }

/-- The finding with `count` more lines above it. -/
def Violation.shift (count : Nat) (v : Violation) : Violation := { v with line := v.line + count }

namespace ChangedLines

theorem shift_contains (count line : Nat) (changed : ChangedLines) :
    (changed.shift count).contains (line + count) = changed.contains line := by
  simp [shift, contains, List.any_map, Function.comp_def, LineRange.contains, LineRange.shift]

theorem shift_isNear {count margin : Nat} {changed : ChangedLines}
    (hfits : (changed.shift count).Fits margin) (line : Nat) :
    (changed.shift count).isNear (line + count) margin = changed.isNear line margin := by
  have hbefore : changed.Fits margin := by
    intro range hrange
    have hbound := hfits _ (List.mem_map_of_mem hrange)
    dsimp only [LineRange.shift] at hbound
    omega
  rw [Bool.eq_iff_iff, hfits.isNear_eq_true_iff, hbefore.isNear_eq_true_iff]
  constructor
  · rintro ⟨_, hmem, hfirst, hlast⟩
    obtain ⟨range, hrange, rfl⟩ := List.mem_map.mp hmem
    dsimp only [LineRange.shift] at hfirst hlast
    exact ⟨range, hrange, by omega, by omega⟩
  · rintro ⟨range, hrange, hfirst, hlast⟩
    refine ⟨_, List.mem_map_of_mem hrange, ?_, ?_⟩
    · dsimp only [LineRange.shift]
      omega
    · dsimp only [LineRange.shift]
      omega

/-- Shifted ranges begin below the shift. -/
theorem lt_first_of_mem_shift {count : Nat} {changed : ChangedLines}
    (hranges : ∀ range ∈ changed.ranges, 1 ≤ range.first) :
    ∀ range ∈ (changed.shift count).ranges, count < range.first := by
  intro _ hmem
  obtain ⟨range, hrange, rfl⟩ := List.mem_map.mp hmem
  have hfirst := hranges range hrange
  dsimp only [LineRange.shift]
  omega

theorem contains_eq_false_of_lt {line : Nat} {changed : ChangedLines}
    (h : ∀ range ∈ changed.ranges, line < range.first) : changed.contains line = false := by
  rw [← Bool.not_eq_true, contains_eq_true_iff]
  rintro ⟨range, hrange, hfirst, _⟩
  exact absurd (h range hrange) (Nat.not_lt.mpr hfirst)

theorem isNear_eq_false_of_lt {line : Nat} {changed : ChangedLines}
    (h : ∀ range ∈ changed.ranges, line < range.first) (margin : Nat) :
    changed.isNear line margin = false := by
  rw [← Bool.not_eq_true, isNear_eq_true_iff]
  rintro ⟨range, hrange, hfirst, _⟩
  exact absurd (h range hrange) (Nat.not_lt.mpr hfirst)

end ChangedLines

namespace Declaration

theorem method?_shift (text : Text) (lineNumber count : Nat) :
    method? text (lineNumber + count) = (method? text lineNumber).map (shift count) := by
  simp only [method?, Option.bind_eq_bind, Option.map_bind, Function.comp_def, Option.bind_none,
    apply_ite (Option.map (shift count)), Option.map_none, Option.map_some]
  rfl

theorem reactive?_shift (text : Text) (lineNumber count : Nat) :
    reactive? text (lineNumber + count) = (reactive? text lineNumber).map (shift count) := by
  simp only [reactive?, Option.bind_eq_bind, Option.map_bind, Function.comp_def, Option.map_some]
  rfl

theorem ofLine?_shift (line : Text) (lineNumber count : Nat) :
    ofLine? line (lineNumber + count) = (ofLine? line lineNumber).map (shift count) := by
  simp only [ofLine?, Option.orElse_eq_orElse, Option.orElse_eq_or, method?_shift,
    reactive?_shift, Option.map_or]

end Declaration

/-- What is wrong with a declaration's documentation does not depend on where they stand. -/
theorem Documentation.discrepancies_shift (voidReturn : VoidReturn) (declaration : Declaration)
    (block : Option DocBlock) (count : Nat) :
    discrepancies voidReturn (declaration.shift count) (block.map (DocBlock.shift count)) =
      discrepancies voidReturn declaration block := by
  cases block <;> rfl

namespace Scan

variable {config : Config} {path : Path} {changed : ChangedLines}

theorem declarationViolations_shift (onChangedLine : Bool) (declaration : Declaration)
    (block : Option DocBlock) (count : Nat) :
    declarationViolations config path onChangedLine (declaration.shift count)
        (block.map (DocBlock.shift count)) =
      (declarationViolations config path onChangedLine declaration block).map
        (Violation.shift count) := by
  simp only [declarationViolations, Documentation.discrepancies_shift, List.map_append,
    List.map_map]
  congr 1
  · congr 1
    rw [apply_ite (List.map (Violation.shift count))]
    rfl
  · rw [apply_ite (List.map (Violation.shift count))]
    rfl

theorem lineViolations_shift {upper : List Text} {wall : Text} (lower : List Text)
    (hclosed : Comment.openAfterLines false (upper ++ [wall]) = false)
    (hwall : DocBlock.EndsWalk wall)
    (hfits : (changed.shift (upper ++ [wall]).length).Fits config.documentation.nearWindow)
    (line : Text) (index : Nat) :
    lineViolations Declaration.ofLine? config path (upper ++ [wall] ++ lower)
        (changed.shift (upper ++ [wall]).length) line (index + (upper ++ [wall]).length) =
      (lineViolations Declaration.ofLine? config path lower changed line index).map
        (Violation.shift (upper ++ [wall]).length) := by
  rw [lineViolations_eq, lineViolations_eq, Nat.add_right_comm, ChangedLines.shift_contains,
    ChangedLines.shift_isNear hfits, List.map_append, apply_ite (List.map (Violation.shift _)),
    apply_ite (List.map (Violation.shift _))]
  congr 1
  · simp only [detectorViolations, List.map_map]
    rfl
  · congr 1
    rw [declarationFindings, declarationFindings, Nat.add_right_comm, Declaration.ofLine?_shift,
      DocBlock.above?_append lower index hclosed hwall]
    cases Declaration.ofLine? line (index + 1) with
    | none => rfl
    | some declaration => exact declarationViolations_shift _ declaration _ _

theorem lineViolations_eq_nil {recognize : Recognizer} {lines : List Text} {line : Text}
    {index : Nat} (h : ∀ range ∈ changed.ranges, index + 1 < range.first) :
    lineViolations recognize config path lines changed line index = [] := by
  rw [lineViolations_eq, ChangedLines.contains_eq_false_of_lt h,
    ChangedLines.isNear_eq_false_of_lt h]
  rfl

/-- Text put above a file moves the findings down and changes nothing else, if no comment reaches
from it into the file and its last line ends every walk upward. -/
theorem violations_shift (config : Config) (path : Path) (upper content : Text)
    (changed : ChangedLines) (hranges : ∀ range ∈ changed.ranges, 1 ≤ range.first)
    (hclosed : Comment.openAfterLines false (Text.lines upper) = false)
    (hwall : ∀ wall, (Text.lines upper).getLast? = some wall → DocBlock.EndsWalk wall)
    (hfits : (changed.shift (Text.lineCount upper)).Fits config.documentation.nearWindow) :
    violations config path (upper ++ '\n' :: content) (changed.shift (Text.lineCount upper)) =
      (violations config path content changed).map (Violation.shift (Text.lineCount upper)) := by
  obtain ⟨lines, wall, hlines⟩ := (Text.lines upper).eq_nil_or_concat.resolve_left
    (Text.lines_ne_nil upper)
  rw [List.concat_eq_append] at hlines
  rw [hlines] at hclosed
  rw [Text.lineCount, hlines] at hfits
  have hends := hwall wall (by rw [hlines, List.getLast?_append]; rfl)
  rw [violations, violationsWith_eq_flatMap, violationsWith_eq_flatMap, Text.lines_append,
    Text.lineCount, List.zipIdx_append, List.flatMap_append, List.map_flatMap, hlines]
  -- No shifted range reaches up to the lines above, and nothing is reported there.
  have habove : ((lines ++ [wall]).zipIdx.flatMap fun entry =>
      lineViolations Declaration.ofLine? config path (lines ++ [wall] ++ Text.lines content)
        (changed.shift (lines ++ [wall]).length) entry.1 entry.2) = [] := by
    refine List.flatMap_eq_nil_iff.mpr fun entry hentry => lineViolations_eq_nil ?_
    intro range hrange
    exact Nat.lt_of_le_of_lt (List.snd_lt_of_mem_zipIdx hentry)
      (ChangedLines.lt_first_of_mem_shift hranges range hrange)
  rw [habove, List.nil_append, Nat.zero_add, List.zipIdx_eq_map_add, List.flatMap_map]
  refine List.flatMap_congr fun ⟨line, index⟩ _ => ?_
  rw [← lineViolations_shift _ hclosed hends hfits, Nat.add_comm index]

/-- A member whose comment has lost its opening: below a class, the walk upward from it does not go
on to the comment above the class. -/
theorem violations_shift_lostOpening :
    (violations {} "shop.ts" ("/** The shop. */\nclass Shop \x7b".toList ++
        '\n' :: " * tail\n */\npublic sum(): number \x7b // TODO".toList) ⟨[⟨5, 5⟩]⟩).map
      (fun v => (v.line, v.rule)) = [(5, .todo), (5, .missingDocumentation)] := by
  have hwall : ∀ wall, (Text.lines "/** The shop. */\nclass Shop \x7b").getLast? = some wall →
      DocBlock.EndsWalk wall := by
    intro wall hlast
    cases hlast
    exact ⟨by decide, by decide, by decide, by decide, by decide⟩
  have hshift := violations_shift {} "shop.ts" "/** The shop. */\nclass Shop \x7b"
    " * tail\n */\npublic sum(): number \x7b // TODO" ⟨[⟨3, 3⟩]⟩ (by decide) (by decide) hwall
    (by decide)
  have hfindings : ((violations {} "shop.ts" " * tail\n */\npublic sum(): number \x7b // TODO"
      ⟨[⟨3, 3⟩]⟩).map (Violation.shift 2)).map (fun v => (v.line, v.rule)) =
      [(5, .todo), (5, .missingDocumentation)] := by decide +kernel
  exact (congrArg (List.map fun v => (v.line, v.rule)) hshift).trans hfindings

end Scan

end ChangeReview
