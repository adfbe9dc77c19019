import ChangeReview.Proofs.Check.AddedLines
import ChangeReview.Proofs.Review.Publication

/-!
# Where the comments of a review stand

An inline comment can stand on an added line only. `Review.keepsToAddedLines_publish` says that a
review of the findings of a check keeps to this, and that it lists the findings beside the added
lines in its body instead.
-/

namespace ChangeReview

namespace Report

/-- The text holds the row of a finding on a line of its own. -/
def HasRow (text : Text) (violation : Violation) : Prop :=
  ∃ before after, text = before ++ '\n' :: (rowOf violation ++ '\n' :: after)

theorem EndsInRows.hasRow {text : Text} {violations : List Violation} {violation : Violation}
    (h : EndsInRows text violations) (hmem : violation ∈ violations) : HasRow text violation := by
  obtain ⟨lead, rfl, hlead, _⟩ := h
  obtain ⟨upper, lower, rfl⟩ := List.append_of_mem hmem
  -- The rows above, or else the lead, end with a line feed.
  have hbefore : ∃ before, lead ++ upper.flatMap (fun v => rowOf v ++ ['\n']) =
      before ++ ['\n'] := by
    rcases List.eq_nil_or_concat upper with rfl | ⟨upper, last, rfl⟩
    · obtain ⟨before, hbefore⟩ := List.getLast?_eq_some_iff.mp (hlead (by simp))
      exact ⟨before, by rw [List.flatMap_nil, List.append_nil, hbefore]⟩
    · refine ⟨lead ++ (upper.flatMap (fun v => rowOf v ++ ['\n']) ++ rowOf last), ?_⟩
      rw [List.concat_eq_append, List.flatMap_append, List.flatMap_singleton]
      simp only [List.append_assoc]
  obtain ⟨before, hbefore⟩ := hbefore
  refine ⟨before, lower.flatMap fun v => rowOf v ++ ['\n'], ?_⟩
  rw [List.flatMap_append, ← List.append_assoc, hbefore, List.flatMap_cons]
  simp only [List.append_assoc, List.singleton_append]

end Report

namespace Review

/-- What a call posts as a review, if it does. -/
def Call.review? : Call → Option (List Comment × Text)
  | .review comments body => some (comments, body)
  | .comment _ => none

/-- How the comments and the body of a review stand to the findings of a check. -/
structure KeepsToAddedLines (source : ChangeSource) (base : Text) (targets : List Target)
    (violations : List Violation) (comments : List Comment) (body : Text) : Prop where
  /-- Each comment stands on an added line of a target that is shown as its path. -/
  anchored : ∀ comment ∈ comments, ∃ target ∈ targets,
    Report.shownPath target.display = comment.path ∧
      source.Adds base target.display comment.line
  /-- The body lists the findings beside the added lines. -/
  listed : ∀ violation ∈ violations, ¬ source.Adds base violation.path violation.line →
    Report.HasRow body violation
  /-- No comment is made of a finding beside the added lines, or of another one at its place. -/
  unanchored : ∃ shown : List Violation, shown.Sublist violations ∧
    List.Forall₂ Comment.TellsOf comments shown ∧
    ∀ violation ∈ violations, ¬ source.Adds base violation.path violation.line →
      ∀ other ∈ shown, ¬ (other.path = violation.path ∧ other.line = violation.line)

variable {poster : Poster} {violations : List Violation} {maxComments : Nat}

theorem reviews_publish (hsome : violations ≠ []) :
    (publish poster violations maxComments).1.filterMap Call.review? =
      [(comments violations maxComments, body violations maxComments)] := by
  rw [publish, if_neg (by simpa using hsome)]
  dsimp only
  split <;> rfl

theorem of_review_mem_publish {shown : List Comment} {text : Text}
    (h : Call.review shown text ∈ (publish poster violations maxComments).1) :
    shown = comments violations maxComments ∧ text = body violations maxComments := by
  have hsome : violations ≠ [] := by
    rintro rfl
    cases h
  have hreview := List.mem_filterMap.mpr ⟨_, h, (rfl : Call.review? (.review shown text) = _)⟩
  rw [reviews_publish hsome, List.mem_singleton] at hreview
  exact Prod.mk.inj hreview

/-- A review of the findings of a check has comments on added lines only. -/
theorem keepsToAddedLines_publish (source : ChangeSource) (check : Check)
    (canonical? : Path → Option Path) (directory : Path) (base : Text) (roots : List Path)
    (poster : Poster) (maxComments : Nat) {violations : List Violation}
    (h : source.violations check canonical? directory base roots = .ok violations) :
    ∃ targets, source.targets canonical? directory base roots = .ok targets ∧
      (violations ≠ [] → ∃ comments body,
        (publish poster violations maxComments).1.filterMap Call.review? = [(comments, body)]) ∧
      ∀ comments body, Call.review comments body ∈ (publish poster violations maxComments).1 →
        KeepsToAddedLines source base targets violations comments body := by
  obtain ⟨targets, htargets, rfl⟩ := ChangeSource.exists_targets h
  refine ⟨targets, htargets, fun hsome => ⟨_, _, reviews_publish hsome⟩, ?_⟩
  intro shown text hcall
  obtain ⟨rfl, rfl⟩ := of_review_mem_publish hcall
  have hadds (v : Violation) (hv : v ∈ check.violations (source.addedLines base) targets) :=
    ChangeSource.onChangedLine_iff_adds hv
  -- Every finding that is shown lies on an added line of its own file.
  have hshown (v : Violation)
      (hv : v ∈ (anchored (check.violations (source.addedLines base) targets)).take maxComments) :
      v ∈ check.violations (source.addedLines base) targets ∧ source.Adds base v.path v.line := by
    obtain ⟨hmem, hflag⟩ := List.mem_filter.mp (List.mem_of_mem_take hv)
    exact ⟨hmem, (hadds v hmem).2.mp hflag⟩
  refine ⟨fun comment hcomment => ?_, fun v hv hbeside => ?_, _, ?_, forall₂_tellsOf_map _, ?_⟩
  · obtain ⟨v, hv, rfl⟩ := List.mem_map.mp hcomment
    obtain ⟨hmem, hline⟩ := hshown v hv
    obtain ⟨target, htarget, hpath⟩ := (hadds v hmem).1
    refine ⟨target, htarget, ?_, ?_⟩
    · rw [hpath, (tellsOf_ofViolation v).path]
    · rw [hpath]
      exact hline
  · refine (endsInRows_body _ maxComments).hasRow (List.mem_filter.mpr ⟨hv, ?_⟩)
    have hflag : v.onChangedLine ≠ true := fun hflag => hbeside ((hadds v hv).2.mp hflag)
    simpa using hflag
  · exact (List.take_sublist _ _).trans List.filter_sublist
  · rintro v _ hbeside other hother ⟨hpath, hline⟩
    exact hbeside (hpath ▸ hline ▸ (hshown other hother).2)

/-- One file, to which the second line was added. -/
def addedRemark : ChangeSource where
  changedFiles _ := .ok ["cart.ts"]
  diff _ _ := .ok "@@ -1,0 +2 @@\n+  size = 0; // TODO"

/-- A check that reads a class with a method below the added line. -/
def cartCheck : Check where
  config := {}
  filter := { extensions := ["ts"], styleExtensions := [], exclude := [], excludeSuffixes := [] }
  read _ := .ok "class Cart \x7b\n  size = 0; // TODO\n  private run(): void \x7b\n"

/-- A poster that refuses nothing. -/
def acceptingPoster : Poster where
  postReview _ _ := .ok ()
  postComment _ := .ok ()

/-- The added remark gets a comment, and the method below it a row. -/
theorem keepsToAddedLines_publish_addedRemark :
    ∃ violations, addedRemark.violations cartCheck some "/shop" "main" [] = .ok violations ∧
      violations.map (fun v => (v.line, v.rule, v.onChangedLine)) =
        [(2, .todo, true), (3, .missingDocumentation, false)] ∧
      ∃ targets, (∃ comments body,
        (publish acceptingPoster violations 30).1.filterMap Call.review? = [(comments, body)]) ∧
        ∀ comments body, Call.review comments body ∈ (publish acceptingPoster violations 30).1 →
          KeepsToAddedLines addedRemark "main" targets violations comments body := by
  have hviolations : addedRemark.violations cartCheck some "/shop" "main" [] =
      .ok (cartCheck.violations (addedRemark.addedLines "main")
        [⟨"cart.ts", "/shop/cart.ts"⟩]) := by rfl
  have hmarks : (cartCheck.violations (addedRemark.addedLines "main")
      [⟨"cart.ts", "/shop/cart.ts"⟩]).map (fun v => (v.line, v.rule, v.onChangedLine)) =
      [(2, .todo, true), (3, .missingDocumentation, false)] := by decide +kernel
  obtain ⟨targets, _, hreview, hkeeps⟩ :=
    keepsToAddedLines_publish addedRemark cartCheck some "/shop" "main" [] acceptingPoster 30
      hviolations
  refine ⟨_, hviolations, hmarks, targets, hreview fun hnone => ?_, hkeeps⟩
  rw [hnone] at hmarks
  cases hmarks

end Review

end ChangeReview
