import ChangeReview.Proofs.Change.Announced
import ChangeReview.Proofs.Check.AddedLines

/-!
# Files do not disturb each other

A check of a change goes through its targets one by one. `ChangeSource.Skips` lists what makes it
pass over a target, and `ChangeSource.isolatesTargets` says that each target is reported about on
its own: the findings are joined in the order of the targets, a target that is passed over leaves no
trace, and what becomes of one target has no influence on the findings about the others.
-/

namespace ChangeReview

/-! ## Kinds of findings -/

theorem Rule.byStyle_of_byDetector {rule : Rule} (h : rule.byDetector = true) :
    rule.byStyle = false := by
  revert h
  cases rule <;> decide

theorem Rule.byStyle_ofDiscrepancy (discrepancy : Documentation.Discrepancy) :
    (Rule.ofDiscrepancy discrepancy).byStyle = false := by
  cases discrepancy <;> rfl

theorem Scan.byStyle_of_mem_violations {config : Config} {path : Path} {content : Text}
    {changed : ChangedLines} {v : Violation} (hv : v ∈ violations config path content changed) :
    v.rule.byStyle = false := by
  rw [violations, violationsWith_eq_flatMap, List.mem_flatMap] at hv
  obtain ⟨⟨line, index⟩, _, hv⟩ := hv
  rcases mem_lineViolations hv with hv | ⟨declaration, _, hv⟩
  · exact Rule.byStyle_of_byDetector (detectorViolations_spec hv).2.1
  · rcases mem_declarationViolations hv with ⟨discrepancy, rfl⟩ | ⟨_, _, rfl | rfl, rfl⟩
    · exact Rule.byStyle_ofDiscrepancy discrepancy
    · rfl
    · rfl

/-- The kind of a file tells which findings there can be in it. -/
theorem Check.byStyle_of_mem_fileViolations {config : Config} {kind : FileKind} {path : Path}
    {content : Text} {changed : ChangedLines} {v : Violation}
    (hv : v ∈ fileViolations config kind path content changed) :
    v.rule.byStyle = true ↔ kind = .stylesheet := by
  cases kind with
  | source => simp [Scan.byStyle_of_mem_violations hv]
  | stylesheet => simp [(Style.violations_spec hv).2.1]

/-! ## One target -/

namespace ChangeSource

/-- The diff of a file announces that a line was added to it. -/
def Announces (source : ChangeSource) (base : Text) (path : Path) (line : Nat) : Prop :=
  ∃ diff, source.diff path base = .ok diff ∧
    ∃ side ∈ NewSide.announcing diff, side.Announces line

/-- The reasons to pass over a target. -/
inductive Skips (source : ChangeSource) (check : Check) (base : Text) (target : Target) : Prop
  | excluded (h : check.filter.classify target.display = none)
  | unreadable {fault : FileFault} (h : check.read target.source = .error fault)
  | withoutDiff {failure : Failure} (h : source.diff target.display base = .error failure)
  | withoutAddedLines (h : ∀ line, ¬ source.Announces base target.display line)

/-- What two checks of changes find in a target is made from the same file and the same diff. -/
structure SameInput (source other : ChangeSource) (check check' : Check) (base : Text)
    (target : Target) : Prop where
  read : check'.read target.source = check.read target.source
  diff : other.diff target.display base = source.diff target.display base

variable {source other : ChangeSource} {check check' : Check} {base : Text} {target : Target}

theorem isEmpty_ofDiff {diff : Text}
    (h : ∀ line, ∀ side ∈ NewSide.announcing diff, ¬ side.Announces line) :
    (ChangedLines.ofDiff diff).isEmpty = true := by
  have hnone : NewSide.announcing diff = [] := by
    rw [List.eq_nil_iff_forall_not_mem]
    intro side hside
    exact h side.start side hside (NewSide.announces_start hside)
  rw [ChangedLines.isEmpty, ChangedLines.ranges_ofDiff, hnone]
  rfl

theorem addedLines_eq_none (h : ∀ line, ¬ source.Announces base target.display line)
    (content : Text) : source.addedLines base target content = none := by
  rw [addedLines]
  cases hdiff : source.diff target.display base with
  | error failure => rfl
  | ok diff =>
    have hempty : (ChangedLines.ofDiff diff).isEmpty = true := by
      refine isEmpty_ofDiff fun line side hside hannounces => ?_
      exact h line ⟨diff, hdiff, side, hside, hannounces⟩
    dsimp only
    rw [hempty, if_pos rfl]

theorem Skips.targetViolations (h : source.Skips check base target) :
    check.targetViolations (source.addedLines base) target = [] := by
  -- Without lines to look at it does not matter how the file is classified and read.
  have hnone (hannounces : ∀ line, ¬ source.Announces base target.display line) :
      check.targetViolations (source.addedLines base) target = [] := by
    rw [Check.targetViolations]
    split
    · rw [addedLines_eq_none hannounces]
    · rfl
  cases h with
  | excluded h => rw [Check.targetViolations, h]
  | unreadable h =>
    rw [Check.targetViolations, h]
    split
    · next hread => cases hread
    · rfl
  | withoutDiff h =>
    refine hnone fun line hannounces => ?_
    obtain ⟨diff, hdiff, _⟩ := hannounces
    rw [h] at hdiff
    cases hdiff
  | withoutAddedLines h => exact hnone h

/-- A target that is not passed over is searched for findings on and beside the lines that its diff
adds. -/
theorem targetViolations_of_ok {kind : FileKind} {content diff : Text}
    (hkind : check.filter.classify target.display = some kind)
    (hread : check.read target.source = .ok content)
    (hdiff : source.diff target.display base = .ok diff) :
    check.targetViolations (source.addedLines base) target =
      Check.fileViolations check.config kind target.display content
        (ChangedLines.ofDiff diff) := by
  have hselect : source.addedLines base target content =
      if (ChangedLines.ofDiff diff).isEmpty then none else some (ChangedLines.ofDiff diff) := by
    rw [addedLines, hdiff]
  rw [Check.targetViolations, hkind, hread]
  dsimp only
  rw [hselect]
  by_cases hempty : (ChangedLines.ofDiff diff).isEmpty = true
  · -- A file without added lines is passed over, and a scan of it would find nothing either.
    rw [if_pos hempty]
    cases kind with
    | source =>
      rw [Check.fileViolations, Scan.violations, Scan.violationsWith, if_pos hempty]
    | stylesheet => rw [Check.fileViolations, Style.violations, if_pos hempty]
  · rw [if_neg hempty]

theorem SameInput.targetViolations (h : SameInput source other check check' base target)
    (hconfig : check'.config = check.config) (hfilter : check'.filter = check.filter) :
    check'.targetViolations (other.addedLines base) target =
      check.targetViolations (source.addedLines base) target := by
  have hselect : other.addedLines base target = source.addedLines base target := by
    funext content
    rw [addedLines, addedLines, h.diff]
  rw [Check.targetViolations, Check.targetViolations, hconfig, hfilter, h.read, hselect]

theorem exists_kind_of_mem_targetViolations {v : Violation}
    (hv : v ∈ check.targetViolations (source.addedLines base) target) :
    v.path = target.display ∧ ∃ kind, check.filter.classify v.path = some kind ∧
      (v.rule.byStyle = true ↔ kind = .stylesheet) := by
  rw [Check.targetViolations] at hv
  split at hv
  · next kind content hkind _ =>
    split at hv
    · next changed _ =>
      have hpath := (Check.fileViolations_spec hv).1
      exact ⟨hpath, kind, by rw [hpath, hkind], Check.byStyle_of_mem_fileViolations hv⟩
    · cases hv
  · cases hv

/-! ## All targets -/

/-- How a check of a change reports about its targets. -/
structure IsolatesTargets (source : ChangeSource) (check : Check) (base : Text) : Prop where
  /-- The findings about the targets below the roots are those about each of them alone, in their
  order. -/
  merged : ∀ canonical? directory roots,
    source.violations check canonical? directory base roots =
      (source.targets canonical? directory base roots).map
        (check.violations (source.addedLines base))
  concat : ∀ targets, check.violations (source.addedLines base) targets =
    targets.flatMap fun target => check.violations (source.addedLines base) [target]
  /-- In a target that is not passed over, the lines of its own diff are searched. -/
  searched : ∀ target kind content diff, check.filter.classify target.display = some kind →
    check.read target.source = .ok content → source.diff target.display base = .ok diff →
      check.violations (source.addedLines base) [target] =
        Check.fileViolations check.config kind target.display content (ChangedLines.ofDiff diff)
  /-- Nothing is found in a target that is passed over, and the others are reported about as if it
  were not there. -/
  skipped : ∀ target, source.Skips check base target →
    check.violations (source.addedLines base) [target] = [] ∧
      ∀ before after, check.violations (source.addedLines base) (before ++ target :: after) =
        check.violations (source.addedLines base) (before ++ after)
  /-- Whatever becomes of the file or the diff of one target, the findings about the others are the
  same and stand in the same order around those about it. -/
  undisturbed : ∀ (other : ChangeSource) (check' : Check) before target after,
    check'.config = check.config → check'.filter = check.filter →
    (∀ neighbour ∈ before ++ after, SameInput source other check check' base neighbour) →
      check'.violations (other.addedLines base) (before ++ target :: after) =
        check.violations (source.addedLines base) before ++
          check'.violations (other.addedLines base) [target] ++
            check.violations (source.addedLines base) after
  /-- A finding is about a target that the filter lets through, and of the kind of its file. -/
  reported : ∀ targets, ∀ v ∈ check.violations (source.addedLines base) targets,
    ∃ target ∈ targets, v.path = target.display ∧
      ∃ kind, check.filter.classify v.path = some kind ∧
        (v.rule.byStyle = true ↔ kind = .stylesheet)

end ChangeSource

namespace Check

variable {check : Check} {select : Selection}

theorem violations_singleton (target : Target) :
    check.violations select [target] = check.targetViolations select target := by
  rw [violations, List.flatMap_singleton]

theorem violations_append (a b : List Target) :
    check.violations select (a ++ b) = check.violations select a ++ check.violations select b :=
  List.flatMap_append

theorem violations_cons (target : Target) (targets : List Target) :
    check.violations select (target :: targets) =
      check.violations select [target] ++ check.violations select targets :=
  violations_append [target] targets

end Check

namespace ChangeSource

theorem violations_of_sameInput {source other : ChangeSource} {check check' : Check} {base : Text}
    {targets : List Target} (hconfig : check'.config = check.config)
    (hfilter : check'.filter = check.filter)
    (h : ∀ target ∈ targets, SameInput source other check check' base target) :
    check'.violations (other.addedLines base) targets =
      check.violations (source.addedLines base) targets :=
  List.flatMap_congr fun target htarget => (h target htarget).targetViolations hconfig hfilter

/-- Targets are checked independently of each other. -/
theorem isolatesTargets (source : ChangeSource) (check : Check) (base : Text) :
    source.IsolatesTargets check base where
  merged canonical? directory roots := rfl
  concat targets := by
    refine List.flatMap_congr fun target _ => ?_
    rw [Check.violations_singleton]
  searched target kind content diff hkind hread hdiff := by
    rw [Check.violations_singleton, targetViolations_of_ok hkind hread hdiff]
  skipped target hskips := by
    have hnothing : check.violations (source.addedLines base) [target] = [] := by
      rw [Check.violations_singleton, hskips.targetViolations]
    refine ⟨hnothing, fun before after => ?_⟩
    rw [Check.violations_append, Check.violations_cons, hnothing, List.nil_append,
      Check.violations_append]
  undisturbed other check' before target after hconfig hfilter hsame := by
    rw [List.forall_mem_append] at hsame
    rw [Check.violations_append, Check.violations_cons, ← List.append_assoc,
      violations_of_sameInput hconfig hfilter hsame.1,
      violations_of_sameInput hconfig hfilter hsame.2]
  reported targets v hv := by
    obtain ⟨target, htarget, hv⟩ := List.mem_flatMap.mp hv
    exact ⟨target, htarget, exists_kind_of_mem_targetViolations hv⟩

end ChangeSource

end ChangeReview
