import ChangeReview.Check
import ChangeReview.Proofs.Failure.Sequence

/-!
# The roots of a check

A check of a change is restricted to the files below the roots that it is given. Roots without a
canonical form are dropped before the restriction is made, and without any root left there is none:
`ChangeSource.targets_liesUnder_iff` says when the targets keep to the roots.
-/

namespace ChangeReview

/-- The path lies at or below the canonical form of one of the roots. -/
def Path.LiesUnder (canonical? : Path → Option Path) (roots : List Path) (path : Path) : Prop :=
  ∃ root ∈ roots, ∃ place, canonical? root = some place ∧ isUnder place path = true

namespace ChangeSource

variable {source : ChangeSource} {canonical? : Path → Option Path} {directory : Path} {base : Text}
  {roots : List Path} {targets : List Target}

/-- A changed file as a target, seen from the directory of the repository. -/
def targetOf (canonical? : Path → Option Path) (directory file : Path) : Target :=
  { display := file, source := Path.join ((canonical? directory).getD directory) file }

theorem exists_changedFiles
    (h : source.targets canonical? directory base roots = .ok targets) :
    ∃ files, source.changedFiles base = .ok files ∧
      targets = (files.map (targetOf canonical? directory)).filter fun target =>
        (roots.filterMap canonical?).isEmpty ||
          (roots.filterMap canonical?).any (Path.isUnder · target.source) := by
  obtain ⟨files, hfiles, htargets⟩ := bind_eq_ok_iff.mp h
  exact ⟨files, hfiles, (Except.ok.inj htargets).symm⟩

theorem display_targetOf (files : List Path) :
    (files.map (targetOf canonical? directory)).map (·.display) = files := by
  rw [List.map_map]
  exact List.map_id files

theorem any_isUnder_iff {path : Path} :
    (roots.filterMap canonical?).any (Path.isUnder · path) = true ↔
      Path.LiesUnder canonical? roots path := by
  simp only [List.any_eq_true, List.mem_filterMap, Path.LiesUnder]
  constructor
  · rintro ⟨place, ⟨root, hroot, hplace⟩, hunder⟩
    exact ⟨root, hroot, place, hplace, hunder⟩
  · rintro ⟨root, hroot, place, hplace, hunder⟩
    exact ⟨place, ⟨root, hroot, hplace⟩, hunder⟩

/-- A root that has a canonical form restricts the targets, whatever becomes of the others. -/
theorem liesUnder_of_exists (h : source.targets canonical? directory base roots = .ok targets)
    (hroots : ∃ root ∈ roots, (canonical? root).isSome = true) :
    ∀ target ∈ targets, Path.LiesUnder canonical? roots target.source := by
  obtain ⟨files, _, rfl⟩ := exists_changedFiles h
  obtain ⟨root, hroot, hsome⟩ := hroots
  obtain ⟨place, hplace⟩ := Option.isSome_iff_exists.mp hsome
  -- This root is left in the list, so the restriction is made.
  have hne : (roots.filterMap canonical?).isEmpty = false := by
    rw [List.isEmpty_eq_false_iff_exists_mem]
    exact ⟨place, List.mem_filterMap.mpr ⟨root, hroot, hplace⟩⟩
  intro target htarget
  have hkept := (List.mem_filter.mp htarget).2
  rw [hne, Bool.false_or] at hkept
  exact any_isUnder_iff.mp hkept

/-- Without such a root all changed files are targets. -/
theorem display_of_forall_none
    (h : source.targets canonical? directory base roots = .ok targets)
    (hroots : ∀ root ∈ roots, canonical? root = none) :
    source.changedFiles base = .ok (targets.map (·.display)) := by
  obtain ⟨files, hfiles, rfl⟩ := exists_changedFiles h
  have hempty : roots.filterMap canonical? = [] := List.filterMap_eq_nil_iff.mpr hroots
  have hall : (files.map (targetOf canonical? directory)).filter
      (fun target => (roots.filterMap canonical?).isEmpty ||
        (roots.filterMap canonical?).any (Path.isUnder · target.source)) =
      files.map (targetOf canonical? directory) := by
    rw [hempty]
    exact List.filter_eq_self.mpr fun _ _ => rfl
  rw [hall, display_targetOf, hfiles]

/-- The targets keep to the roots exactly if some root has a canonical form or nothing changed. -/
theorem targets_liesUnder_iff (h : source.targets canonical? directory base roots = .ok targets) :
    (∀ target ∈ targets, Path.LiesUnder canonical? roots target.source) ↔
      (∃ root ∈ roots, (canonical? root).isSome = true) ∨ source.changedFiles base = .ok [] := by
  constructor
  · intro hunder
    by_cases hroots : ∃ root ∈ roots, (canonical? root).isSome = true
    · exact .inl hroots
    · -- No target can lie under a root without a canonical form.
      have hnone : ∀ root ∈ roots, canonical? root = none := by simpa using hroots
      have htargets : targets = [] := by
        refine List.eq_nil_iff_forall_not_mem.mpr fun target htarget => ?_
        obtain ⟨root, hroot, place, hplace, _⟩ := hunder target htarget
        rw [hnone root hroot] at hplace
        cases hplace
      have hfiles := display_of_forall_none h hnone
      rw [htargets] at hfiles
      exact .inr hfiles
  · rintro (hroots | hfiles)
    · exact liesUnder_of_exists h hroots
    · obtain ⟨files, hchanged, rfl⟩ := exists_changedFiles h
      rw [hfiles] at hchanged
      obtain rfl := Except.ok.inj hchanged
      intro target htarget
      cases htarget

/-- Two changed files in different directories. -/
def twoFiles : ChangeSource where
  changedFiles _ := .ok ["src/a.ts", "web/b.ts"]
  diff _ _ := .ok []

/-- Paths from the root of the file system are canonical, and no other path leads anywhere. -/
def absoluteOnly (path : Path) : Option Path := if Path.isAbsolute path then some path else none

/-- A missing root beside one that exists adds nothing. -/
theorem targets_liesUnder_iff_mixedRoots :
    ∃ targets, twoFiles.targets absoluteOnly "/repo" "main" ["missing", "/repo/src"] = .ok targets ∧
      targets.map (·.display) = ["src/a.ts".toList] ∧
      ∀ target ∈ targets,
        Path.LiesUnder absoluteOnly ["missing", "/repo/src"] target.source := by
  have htargets : twoFiles.targets absoluteOnly "/repo" "main" ["missing", "/repo/src"] =
      .ok [⟨"src/a.ts", "/repo/src/a.ts"⟩] := by rfl
  exact ⟨_, htargets, rfl,
    (targets_liesUnder_iff htargets).mpr (.inl ⟨"/repo/src", by decide, by decide⟩)⟩

/-- With missing roots only, files outside all of them are targets. -/
theorem targets_missingRoot :
    ∃ targets, twoFiles.targets absoluteOnly "/repo" "main" ["missing"] = .ok targets ∧
      targets.map (·.display) = ["src/a.ts".toList, "web/b.ts".toList] ∧
      ∀ target ∈ targets, ¬ Path.LiesUnder absoluteOnly ["missing"] target.source := by
  have htargets : twoFiles.targets absoluteOnly "/repo" "main" ["missing"] =
      .ok [⟨"src/a.ts", "/repo/src/a.ts"⟩, ⟨"web/b.ts", "/repo/web/b.ts"⟩] := by rfl
  refine ⟨_, htargets, rfl, fun target _ => ?_⟩
  rintro ⟨root, hroot, place, hplace, _⟩
  obtain rfl := List.mem_singleton.mp hroot
  cases hplace

end ChangeSource

end ChangeReview
