import ChangeReview.Proofs.Check.Roots
import ChangeReview.Proofs.Scan.Findings
import ChangeReview.Proofs.Style.Findings

/-!
# Findings and added lines

Both scans mark a finding as lying on a changed line exactly if its line is one. The mark survives
the joining of many files: `ChangeSource.onChangedLine_iff_adds` says that the findings of a check
bear it exactly where the diff of their own file adds their line.
-/

namespace ChangeReview

/-! ## One file -/

namespace Scan

variable {recognize : Recognizer} {config : Config} {path : Path} {lines : List Text}
  {changed : ChangedLines} {line : Text} {index : Nat} {v : Violation}

theorem path_of_mem_lineViolations
    (hv : v ∈ lineViolations recognize config path lines changed line index) : v.path = path := by
  rcases mem_lineViolations hv with hv | ⟨declaration, _, hv⟩
  · simp only [detectorViolations, List.mem_map] at hv
    obtain ⟨detector, _, rfl⟩ := hv
    rfl
  · rcases mem_declarationViolations hv with ⟨_, rfl⟩ | ⟨_, _, _, rfl⟩
    · rfl
    · rfl

theorem violations_spec {content : Text} (hv : v ∈ violations config path content changed) :
    v.path = path ∧ v.onChangedLine = changed.contains v.line := by
  rw [violations, violationsWith_eq_flatMap, List.mem_flatMap] at hv
  obtain ⟨⟨line, index⟩, _, hv⟩ := hv
  refine ⟨path_of_mem_lineViolations hv, ?_⟩
  rw [onChangedLine_of_mem_lineViolations hv,
    line_of_mem_lineViolations Declaration.ofLine?_keepsLineNumber hv]

end Scan

/-! ## Many files -/

namespace Check

variable {check : Check} {select : Selection} {v : Violation}

theorem fileViolations_spec {config : Config} {kind : FileKind} {path : Path} {content : Text}
    {changed : ChangedLines} (hv : v ∈ fileViolations config kind path content changed) :
    v.path = path ∧ v.onChangedLine = changed.contains v.line := by
  cases kind with
  | source => exact Scan.violations_spec hv
  | stylesheet =>
    -- The scan marks all it finds, but it looks at changed lines only.
    obtain ⟨hpath, _, hflag, hchanged⟩ := Style.violations_spec hv
    exact ⟨hpath, hflag.trans hchanged.symm⟩

/-- Each finding is about a line of one of the files, and its mark is that of the lines selected
there. -/
theorem violations_spec {targets : List Target} (hv : v ∈ check.violations select targets) :
    ∃ target ∈ targets, target.display = v.path ∧ ∃ content changed,
      select target content = some changed ∧ v.onChangedLine = changed.contains v.line := by
  obtain ⟨target, htarget, hv⟩ := List.mem_flatMap.mp hv
  refine ⟨target, htarget, ?_⟩
  rw [targetViolations] at hv
  split at hv
  · next kind content hkind hread =>
    split at hv
    · next changed hselect =>
      obtain ⟨hpath, hflag⟩ := fileViolations_spec hv
      exact ⟨hpath.symm, content, changed, hselect, hflag⟩
    · cases hv
  · cases hv

end Check

namespace ChangeSource

variable {source : ChangeSource} {check : Check} {canonical? : Path → Option Path}
  {directory : Path} {base : Text} {roots : List Path} {violations : List Violation}

/-- The diff of a file adds a line to it. -/
def Adds (source : ChangeSource) (base : Text) (path : Path) (line : Nat) : Prop :=
  ∃ diff, source.diff path base = .ok diff ∧ (ChangedLines.ofDiff diff).contains line = true

theorem addedLines_eq_some {target : Target} {content : Text} {changed : ChangedLines}
    (h : source.addedLines base target content = some changed) :
    ∃ diff, source.diff target.display base = .ok diff ∧ changed = ChangedLines.ofDiff diff := by
  rw [addedLines] at h
  split at h
  · cases h
  · next diff hdiff =>
    dsimp only at h
    split at h
    · cases h
    · exact ⟨diff, hdiff, (Option.some.inj h).symm⟩

theorem exists_targets
    (h : source.violations check canonical? directory base roots = .ok violations) :
    ∃ targets, source.targets canonical? directory base roots = .ok targets ∧
      violations = check.violations (source.addedLines base) targets := by
  obtain ⟨targets, htargets, hviolations⟩ := bind_eq_ok_iff.mp h
  exact ⟨targets, htargets, (Except.ok.inj hviolations).symm⟩

/-- A finding of a check is about a target, and lies on a changed line exactly if the diff of that
target adds the line. -/
theorem onChangedLine_iff_adds {targets : List Target} {v : Violation}
    (hv : v ∈ check.violations (source.addedLines base) targets) :
    (∃ target ∈ targets, target.display = v.path) ∧
      (v.onChangedLine = true ↔ source.Adds base v.path v.line) := by
  obtain ⟨target, htarget, hpath, content, changed, hselect, hflag⟩ := Check.violations_spec hv
  obtain ⟨diff, hdiff, rfl⟩ := addedLines_eq_some hselect
  rw [hpath] at hdiff
  refine ⟨⟨target, htarget, hpath⟩, ?_, ?_⟩
  · intro hchanged
    exact ⟨diff, hdiff, by rw [← hflag, hchanged]⟩
  · rintro ⟨other, hother, hcontains⟩
    rw [hdiff] at hother
    obtain rfl := Except.ok.inj hother
    rw [hflag, hcontains]

end ChangeSource

end ChangeReview
