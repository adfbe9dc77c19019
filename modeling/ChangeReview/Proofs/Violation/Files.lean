import ChangeReview.Violation
import Mathlib.Data.Finset.Card
import Mathlib.Data.List.Perm.Basic

/-!
# The files of a list of findings

Two spellings of a path are one file, and a file is listed where it first occurs and as it is
spelled there. `Violation.FirstSpellings` says this of a list of paths, `Violation.Counts` what is
counted of a list of findings, and both hold of what the definitions compute.
-/

namespace ChangeReview

theorem Path.same_iff {a b : Path} : Path.same a b = true ↔ Path.components a = Path.components b :=
  beq_iff_eq

example : Path.same "a//b" "a/./b" ∧ Path.same "a//b" "a/b/" := by decide

namespace Violation

/-- Whether the finding is about the file with this path. -/
def isIn (path : Path) (violation : Violation) : Bool := Path.same path violation.path

/-- The paths of the files that the findings are about, in order of first appearance and as they
are first spelled. -/
structure FirstSpellings (violations : List Violation) (paths : List Path) : Prop where
  covers : ∀ v ∈ violations, ∃ path ∈ paths, v.isIn path = true
  first : ∀ path ∈ paths, (violations.find? (isIn path)).map (·.path) = some path
  ordered : paths.Pairwise fun a b => violations.findIdx (isIn a) < violations.findIdx (isIn b)

/-- What a summary counts. -/
structure Counts (violations : List Violation) (summary : Summary) : Prop where
  total : summary.total = violations.length
  errors : summary.errors = violations.countP (·.severity = .error)
  warnings : summary.warnings = violations.countP (·.severity = .warning)
  files : summary.files = (violations.map (Path.components ·.path)).toFinset.card

variable {violations : List Violation} {paths : List Path} {path : Path} {v : Violation}

theorem isIn_iff : v.isIn path = true ↔ Path.components path = Path.components v.path :=
  Path.same_iff

theorem isIn_self (v : Violation) : v.isIn v.path = true := isIn_iff.mpr rfl

theorem FirstSpellings.findIdx_lt (h : FirstSpellings violations paths) (hpath : path ∈ paths) :
    violations.findIdx (isIn path) < violations.length := by
  obtain ⟨v, hfound, -⟩ := Option.map_eq_some_iff.mp (h.first path hpath)
  exact List.findIdx_lt_length_of_exists
    ⟨v, List.mem_of_find?_eq_some hfound, List.find?_some hfound⟩

theorem FirstSpellings.exists_path (h : FirstSpellings violations paths) (hpath : path ∈ paths) :
    ∃ v ∈ violations, v.path = path := by
  obtain ⟨v, hfound, hv⟩ := Option.map_eq_some_iff.mp (h.first path hpath)
  exact ⟨v, List.mem_of_find?_eq_some hfound, hv⟩

/-- Different paths of the list are different files. -/
theorem FirstSpellings.nodup (h : FirstSpellings violations paths) :
    (paths.map Path.components).Nodup := by
  refine List.pairwise_map.mpr (h.ordered.imp fun {a b} hlt hsame => ?_)
  have hisIn : isIn a = isIn b := funext fun v => by
    rw [Bool.eq_iff_iff, isIn_iff, isIn_iff, hsame]
  rw [hisIn] at hlt
  exact absurd hlt (Nat.lt_irrefl _)

/-- What is first among some findings remains so when more follow. -/
theorem FirstSpellings.findIdx_append (h : FirstSpellings violations paths) (hpath : path ∈ paths)
    (later : List Violation) :
    (violations ++ later).findIdx (isIn path) = violations.findIdx (isIn path) := by
  rw [List.findIdx_append, if_pos (h.findIdx_lt hpath)]

theorem FirstSpellings.find?_append (h : FirstSpellings violations paths) (hpath : path ∈ paths)
    (later : List Violation) :
    ((violations ++ later).find? (isIn path)).map (·.path) = some path := by
  obtain ⟨v, hfound, hv⟩ := Option.map_eq_some_iff.mp (h.first path hpath)
  rw [List.find?_append, hfound, Option.some_or, Option.map_some, hv]

/-- The next finding adds its path unless its file is listed. -/
theorem FirstSpellings.push (h : FirstSpellings violations paths) (v : Violation) :
    FirstSpellings (violations ++ [v])
      (if paths.any (Path.same v.path) then paths else paths ++ [v.path]) := by
  have hordered : paths.Pairwise fun a b =>
      (violations ++ [v]).findIdx (isIn a) < (violations ++ [v]).findIdx (isIn b) := by
    refine h.ordered.imp_of_mem fun ha hb hlt => ?_
    rwa [h.findIdx_append ha, h.findIdx_append hb]
  split
  · next hlisted =>
    obtain ⟨path, hpath, hsame⟩ := List.any_eq_true.mp hlisted
    refine ⟨fun w hw => ?_, fun path hpath => h.find?_append hpath _, hordered⟩
    rcases List.mem_append.mp hw with hw | hw
    · exact h.covers w hw
    · obtain rfl := List.mem_singleton.mp hw
      exact ⟨path, hpath, isIn_iff.mpr (Path.same_iff.mp hsame).symm⟩
  · next hnew =>
    -- No finding so far is in the file of the new one.
    have hnone : ∀ w ∈ violations, ¬ w.isIn v.path = true := by
      intro w hw hsame
      obtain ⟨path, hpath, hin⟩ := h.covers w hw
      refine hnew (List.any_eq_true.mpr ⟨path, hpath, Path.same_iff.mpr ?_⟩)
      rw [isIn_iff.mp hsame, isIn_iff.mp hin]
    refine ⟨fun w hw => ?_, fun path hpath => ?_, List.pairwise_append.mpr
      ⟨hordered, List.pairwise_singleton _ _, fun a ha b hb => ?_⟩⟩
    · rcases List.mem_append.mp hw with hw | hw
      · obtain ⟨path, hpath, hin⟩ := h.covers w hw
        exact ⟨path, List.mem_append_left _ hpath, hin⟩
      · obtain rfl := List.mem_singleton.mp hw
        exact ⟨w.path, List.mem_append_right _ List.mem_cons_self, isIn_self w⟩
    · rcases List.mem_append.mp hpath with hpath | hpath
      · exact h.find?_append hpath _
      · obtain rfl := List.mem_singleton.mp hpath
        rw [List.find?_append, List.find?_eq_none.mpr hnone, Option.none_or,
          List.find?_cons_of_pos (isIn_self v), Option.map_some]
    · obtain rfl := List.mem_singleton.mp hb
      have habsent : violations.findIdx (isIn v.path) = violations.length :=
        List.findIdx_eq_length_of_false fun w hw => Bool.eq_false_iff.mpr (hnone w hw)
      rw [h.findIdx_append ha, List.findIdx_append, habsent, if_neg (Nat.lt_irrefl _)]
      exact (h.findIdx_lt ha).trans_le (Nat.le_add_left _ _)

theorem firstSpellings_files (violations : List Violation) :
    FirstSpellings violations (files violations) := by
  induction violations using List.reverseRecOn with
  | nil => exact ⟨nofun, nofun, List.Pairwise.nil⟩
  | append_singleton upper v ih =>
    rw [files, List.foldl_append]
    exact ih.push v

theorem length_filter_isError (violations : List Violation) :
    (violations.filter (·.isError)).length = violations.countP (·.severity = .error) := by
  rw [List.countP_eq_length_filter]
  rfl

theorem length_eq_countP (violations : List Violation) :
    violations.length =
      violations.countP (·.severity = .error) + violations.countP (·.severity = .warning) := by
  rw [List.length_eq_countP_add_countP (·.severity = .error)]
  congr 1
  refine List.countP_congr fun v _ => ?_
  cases v.severity <;> simp

theorem counts_summarize (violations : List Violation) :
    Counts violations (summarize violations) where
  total := rfl
  errors := length_filter_isError violations
  warnings := by
    change violations.length - (violations.filter (·.isError)).length = _
    rw [length_filter_isError, length_eq_countP, Nat.add_sub_cancel_left]
  files := by
    have hfiles := firstSpellings_files violations
    change (files violations).length = _
    rw [← List.length_map (f := Path.components), ← List.toFinset_card_of_nodup hfiles.nodup]
    congr 1
    ext components
    rw [List.mem_toFinset, List.mem_toFinset, List.mem_map, List.mem_map]
    constructor
    · rintro ⟨path, hpath, rfl⟩
      obtain ⟨v, hfound, -⟩ := Option.map_eq_some_iff.mp (hfiles.first path hpath)
      exact ⟨v, List.mem_of_find?_eq_some hfound, (isIn_iff.mp (List.find?_some hfound)).symm⟩
    · rintro ⟨v, hv, rfl⟩
      obtain ⟨path, hpath, hin⟩ := hfiles.covers v hv
      exact ⟨path, hpath, isIn_iff.mp hin⟩

theorem Counts.total_eq {summary : Summary} (h : Counts violations summary) :
    summary.total = summary.errors + summary.warnings := by
  rw [h.total, h.errors, h.warnings, length_eq_countP]

/-! ## Sorting by files -/

/-- The findings of listed files, file by file, are the findings whose file is listed. -/
theorem perm_flatMap_filter (hnodup : (paths.map Path.components).Nodup)
    (violations : List Violation) :
    (paths.flatMap fun path => violations.filter (isIn path)).Perm
      (violations.filter fun v => paths.any (v.isIn ·)) := by
  induction paths with
  | nil => simp
  | cons path paths ih =>
    rw [List.map_cons, List.nodup_cons] at hnodup
    -- A finding in the first file is in no other one.
    have hother (v : Violation) (hin : v.isIn path = true) : paths.any (v.isIn ·) = false := by
      rw [List.any_eq_false]
      intro other hother hsame
      refine hnodup.1 (List.mem_map.mpr ⟨other, hother, ?_⟩)
      rw [isIn_iff.mp hsame, isIn_iff.mp hin]
    let listed := violations.filter fun v => (path :: paths).any (v.isIn ·)
    have hfirst : listed.filter (isIn path) = violations.filter (isIn path) := by
      rw [List.filter_filter]
      refine List.filter_congr fun v _ => ?_
      rw [List.any_cons]
      cases v.isIn path <;> rfl
    have hrest : listed.filter (fun v => !v.isIn path) =
        violations.filter fun v => paths.any (v.isIn ·) := by
      rw [List.filter_filter]
      refine List.filter_congr fun v _ => ?_
      rw [List.any_cons]
      cases hin : v.isIn path
      · rfl
      · rw [hother v hin]
        rfl
    have hsplit := List.filter_append_perm (isIn path) listed
    rw [hfirst, hrest] at hsplit
    exact ((ih hnodup.2).append_left _).trans hsplit

/-- Sorting the findings by their files loses none and repeats none. -/
theorem FirstSpellings.perm (h : FirstSpellings violations paths) :
    (paths.flatMap fun path => violations.filter (isIn path)).Perm violations := by
  have hall : violations.filter (fun v => paths.any (v.isIn ·)) = violations := by
    rw [List.filter_eq_self]
    intro v hv
    obtain ⟨path, hpath, hin⟩ := h.covers v hv
    exact List.any_eq_true.mpr ⟨path, hpath, hin⟩
  have hperm := perm_flatMap_filter h.nodup violations
  rwa [hall] at hperm

end Violation

end ChangeReview
