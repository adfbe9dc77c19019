import ChangeReview.Proofs.Report.Table
import ChangeReview.Review

/-!
# The course of a publication

`Review.Publishes` describes the calls that a publication may make, what they hold and how it ends,
and `Review.publishes_publish` says that every publication follows one of these courses. What a
review holds is said by `Review.IsReview`: a comment that tells of each finding in order, the rows
of the other findings, and a notice of what was left out.
-/

namespace ChangeReview

namespace Text

/-- The text up to its first line feed. -/
def firstLine (text : Text) : Text := text.takeWhile (· != '\n')

theorem firstLine_append {line rest : Text} (hline : '\n' ∉ line)
    (hrest : ∀ c, rest.head? = some c → c = '\n') : firstLine (line ++ rest) = line := by
  have hall : ∀ c ∈ line, (c != '\n') = true := fun c hc => by
    simpa using ne_of_mem_of_not_mem hc hline
  rw [firstLine, List.takeWhile_append_of_pos hall]
  cases rest with
  | nil => simp
  | cons c rest => simp [hrest c rfl]

end Text

namespace Report

/-- The text ends in one row for each of the findings, in order, and holds no row above them: no
mark of a severity stands there. -/
def EndsInRows (text : Text) (violations : List Violation) : Prop :=
  ∃ lead, text = lead ++ violations.flatMap (fun v => rowOf v ++ ['\n']) ∧
    (violations ≠ [] → lead.getLast? = some '\n') ∧ ∀ severity, ¬ mark severity <:+: lead

theorem unlines_map_tableRow (violations : List Violation) :
    Text.unlines (violations.map tableRow) = violations.flatMap fun v => rowOf v ++ ['\n'] := by
  induction violations with
  | nil => rfl
  | cons v violations ih =>
    rw [List.map_cons, Text.unlines_cons, ih, List.flatMap_cons, tableRow_eq_rowOf,
      List.append_assoc, List.singleton_append]

theorem endsInRows_markdown {violations : List Violation} (h : violations ≠ []) :
    EndsInRows (markdown violations) violations := by
  refine ⟨Text.unlines (tableHead (Violation.summarize violations)), ?_, ?_, ?_⟩
  · rw [markdown_eq h, unlines_map_tableRow]
  · exact fun _ => Text.getLast?_unlines (List.cons_ne_nil _ _)
  · exact (isAscii_tableHead _).not_mark

end Report

namespace Review

/-- The comment tells of a finding, at its place. -/
structure Comment.TellsOf (comment : Comment) (violation : Violation) : Prop where
  path : comment.path = Report.shownPath violation.path
  line : comment.line = violation.line
  body : comment.body = Report.mark violation.severity ++ " **".toList ++ violation.rule.id ++
    "**: ".toList ++ violation.message

/-- What a review says about findings that it leaves out. -/
def truncationNotice (shown : Nat) : Text :=
  Text.concat [" Showing the first ", Text.ofNat shown, " as inline comments."]

/-- What one review holds. -/
structure IsReview (violations : List Violation) (maxComments : Nat) (comments : List Comment)
    (body : Text) : Prop where
  /-- A comment for each of the first findings on changed lines, in order. -/
  told : List.Forall₂ Comment.TellsOf comments ((violations.filter (·.onChangedLine)).take
    (min maxComments (violations.countP (·.onChangedLine))))
  /-- A row for each of the other findings, in order. -/
  rows : Report.EndsInRows body (violations.filter (!·.onChangedLine))
  /-- The first line says how many are shown exactly if some are not. -/
  notice : ∀ shown, truncationNotice shown <:+ Text.firstLine body ↔
    shown = comments.length ∧ comments.length < violations.countP (·.onChangedLine)

/-- The courses of a publication: the calls in order, and how it ends. -/
inductive Publishes (poster : Poster) (violations : List Violation) (maxComments : Nat) :
    List Call → Except Failure Outcome → Prop
  /-- There is nothing to publish. -/
  | nothing (hnone : violations = []) : Publishes poster violations maxComments [] (.ok .nothing)
  /-- The review is accepted. -/
  | detailed {comments : List Comment} {body : Text} (hsome : violations ≠ [])
      (hreview : IsReview violations maxComments comments body)
      (hposted : poster.postReview comments body = .ok ()) :
      Publishes poster violations maxComments [.review comments body]
        (.ok (.detailed comments.length))
  /-- The review is refused, and a comment with the whole report accepted. -/
  | summary {comments : List Comment} {body report : Text} {failure : Failure}
      (hsome : violations ≠ []) (hreview : IsReview violations maxComments comments body)
      (hrefused : poster.postReview comments body = .error failure)
      (hreport : Report.EndsInRows report violations)
      (hposted : poster.postComment report = .ok ()) :
      Publishes poster violations maxComments [.review comments body, .comment report]
        (.ok .summary)
  /-- Both are refused. -/
  | refused {comments : List Comment} {body report : Text} {failure refusal : Failure}
      (hsome : violations ≠ []) (hreview : IsReview violations maxComments comments body)
      (hrefused : poster.postReview comments body = .error failure)
      (hreport : Report.EndsInRows report violations)
      (hrefusal : poster.postComment report = .error refusal) :
      Publishes poster violations maxComments [.review comments body, .comment report]
        (.error refusal)

/-! ## The body of a review -/

variable {violations : List Violation} {maxComments shown : Nat}

/-- The sentence with the counts, up to its last word. -/
def countsPieces (summary : Violation.Summary) : List Text :=
  ["doc-guard found ", Text.ofNat summary.total, " violations in ", Text.ofNat summary.files,
    " files (", Text.ofNat summary.errors, " errors, ", Text.ofNat summary.warnings]

theorem headline_eq (violations : List Violation) (shown : Nat) :
    headline violations shown =
      Text.concat (countsPieces (Violation.summarize violations)) ++ (" warnings).".toList ++
        if shown < (anchored violations).length then truncationNotice shown else []) := by
  refine (Text.concat_append (countsPieces (Violation.summarize violations)) _).trans ?_
  rw [Text.concat, Text.concat, List.flatten_cons, List.flatten_cons, List.flatten_nil,
    List.append_nil]
  rfl

theorem isPlain_headline (violations : List Violation) (shown : Nat) :
    Report.IsPlain (headline violations shown) := by
  have hnumber := Report.isPlain_ofNat
  refine Text.forall_mem_concat ?_
  simp only [List.forall_mem_cons]
  refine ⟨?_, hnumber _, ?_, hnumber _, ?_, hnumber _, ?_, hnumber _, ?_, ?notice, ?_⟩
  case notice =>
    split
    · refine Text.forall_mem_concat ?_
      simp only [List.forall_mem_cons]
      refine ⟨?_, hnumber _, ?_, ?_⟩
      all_goals decide
    · decide
  all_goals decide

/-- The words above the table of findings beside the changed lines. -/
def besideIntro (count : Nat) : Text :=
  Text.concat
    ["\n\n", Text.ofNat count,
      " findings are next to the changed lines rather than on them:\n\n"]

theorem besidePart_eq (h : beside violations ≠ []) :
    besidePart violations =
      besideIntro (beside violations).length ++ Report.markdown (beside violations) := by
  rw [besidePart, if_neg (by simpa using h)]
  refine (Text.concat_append ["\n\n", Text.ofNat (beside violations).length,
    " findings are next to the changed lines rather than on them:\n\n"] _).trans ?_
  rw [Text.concat, Text.concat, List.flatten_singleton]
  rfl

theorem besidePart_eq_nil (h : beside violations = []) : besidePart violations = [] := by
  rw [besidePart, if_pos (by simpa using h)]

theorem isAscii_besideIntro (count : Nat) : Report.IsAscii (besideIntro count) := by
  refine Text.forall_mem_concat ?_
  simp only [List.forall_mem_cons]
  refine ⟨?_, (Report.isPlain_ofNat _).isAscii, ?_, ?_⟩
  all_goals decide

theorem firstLine_body (violations : List Violation) (maxComments : Nat) :
    Text.firstLine (body violations maxComments) =
      headline violations (comments violations maxComments).length := by
  refine Text.firstLine_append (isPlain_headline _ _).newline_notMem fun c hc => ?_
  -- What follows the headline, if anything, begins with a line feed.
  by_cases hbeside : beside violations = []
  · rw [besidePart_eq_nil hbeside] at hc
    cases hc
  · rw [besidePart_eq hbeside] at hc
    exact (Option.some.inj hc).symm

theorem endsInRows_body (violations : List Violation) (maxComments : Nat) :
    Report.EndsInRows (body violations maxComments) (beside violations) := by
  have hheadline := (isPlain_headline violations (comments violations maxComments).length).isAscii
  by_cases hbeside : beside violations = []
  · refine ⟨_, ?_, fun hne => absurd hbeside hne, hheadline.not_mark⟩
    rw [body, besidePart_eq_nil hbeside, hbeside]
    rfl
  · -- The lead is the headline, the intro of the table and the table's head.
    have hhead : Text.unlines (Report.tableHead (Violation.summarize (beside violations))) ≠ [] :=
      List.ne_nil_of_mem (List.mem_of_getLast? (Text.getLast?_unlines (List.cons_ne_nil _ _)))
    refine ⟨headline violations (comments violations maxComments).length ++
      (besideIntro (beside violations).length ++
        Text.unlines (Report.tableHead (Violation.summarize (beside violations)))), ?_, ?_, ?_⟩
    · rw [body, besidePart_eq hbeside, Report.markdown_eq hbeside, Report.unlines_map_tableRow]
      simp only [List.append_assoc]
    · intro _
      rw [List.getLast?_append_of_ne_nil _ (List.append_ne_nil_of_right_ne_nil _ hhead),
        List.getLast?_append_of_ne_nil _ hhead]
      exact Text.getLast?_unlines (List.cons_ne_nil _ _)
    · exact (hheadline.append
        ((isAscii_besideIntro _).append (Report.isAscii_tableHead _))).not_mark

/-! ## The notice of what is left out -/

theorem truncationNotice_eq (n : Nat) :
    truncationNotice n =
      " Showing the first".toList ++ (' ' :: Text.ofNat n ++ " as inline comments.".toList) := by
  have hlead : " Showing the first ".toList = " Showing the first".toList ++ [' '] := by decide
  rw [truncationNotice, hlead, Text.concat]
  simp only [List.flatten_cons, List.flatten_nil, List.append_nil, List.append_assoc,
    List.cons_append, List.nil_append]

theorem eq_of_truncationNotice_suffix {a b : Nat} {text : Text}
    (ha : truncationNotice a <:+ text) (hb : truncationNotice b <:+ text) : a = b := by
  obtain ⟨p, rfl⟩ := ha
  obtain ⟨q, hq⟩ := hb
  rw [truncationNotice_eq, truncationNotice_eq] at hq
  simp only [← List.append_assoc] at hq
  have hfront := List.append_cancel_right hq
  -- The digits at the end are read off backward, up to the blank before them.
  have hdigits (front : Text) (n : Nat) :
      (front ++ ' ' :: Text.ofNat n).reverse.takeWhile Char.isDigit = (Text.ofNat n).reverse := by
    have hall : ∀ c ∈ (Text.ofNat n).reverse, c.isDigit = true := fun c hc =>
      Text.isDigit_of_mem_ofNat (List.mem_reverse.mp hc)
    rw [List.reverse_append, List.reverse_cons, List.append_assoc,
      List.takeWhile_append_of_pos hall]
    simp
  have hread := congrArg (fun t : Text => t.reverse.takeWhile Char.isDigit) hfront
  simp only [hdigits] at hread
  exact (Text.ofNat_injective (List.reverse_injective hread)).symm

/-- The headline ends in a notice exactly if not all comments are shown. -/
theorem truncationNotice_suffix_headline_iff {n : Nat} :
    truncationNotice n <:+ headline violations shown ↔
      n = shown ∧ shown < (anchored violations).length := by
  rw [headline_eq]
  by_cases hshown : shown < (anchored violations).length
  · rw [if_pos hshown, ← List.append_assoc]
    constructor
    · intro h
      exact ⟨eq_of_truncationNotice_suffix h (List.suffix_append _ _), hshown⟩
    · rintro ⟨rfl, _⟩
      exact List.suffix_append _ _
  · rw [if_neg hshown, List.append_nil]
    refine ⟨fun h => ?_, fun h => absurd h.2 hshown⟩
    -- The sentence with the counts ends in other words than the notice.
    rw [truncationNotice_eq, ← List.append_assoc] at h
    have hnotice := (List.suffix_append _ _).trans h
    have hcounts := List.suffix_append
      (Text.concat (countsPieces (Violation.summarize violations))) " warnings).".toList
    exact absurd (List.suffix_of_suffix_length_le hcounts hnotice (by decide)) (by decide)

/-! ## What is published -/

theorem length_anchored (violations : List Violation) :
    (anchored violations).length = violations.countP (·.onChangedLine) :=
  List.countP_eq_length_filter.symm

theorem tellsOf_ofViolation (violation : Violation) :
    (Comment.ofViolation violation).TellsOf violation where
  path := Report.displayPath_none violation.path
  line := rfl
  body := by
    rw [Comment.ofViolation, Report.emoji_eq]
    simp [Text.concat]

theorem forall₂_tellsOf_map (violations : List Violation) :
    List.Forall₂ Comment.TellsOf (violations.map Comment.ofViolation) violations := by
  rw [List.forall₂_map_left_iff, List.forall₂_same]
  exact fun violation _ => tellsOf_ofViolation violation

theorem isReview (violations : List Violation) (maxComments : Nat) :
    IsReview violations maxComments (comments violations maxComments)
      (body violations maxComments) where
  told := by
    rw [← length_anchored, comments, anchored, ← List.take_eq_take_min]
    exact forall₂_tellsOf_map _
  rows := endsInRows_body violations maxComments
  notice shown := by
    rw [firstLine_body, truncationNotice_suffix_headline_iff, length_anchored]

/-- Every publication takes one of the described courses. -/
theorem publishes_publish (poster : Poster) (violations : List Violation) (maxComments : Nat) :
    Publishes poster violations maxComments (publish poster violations maxComments).1
      (publish poster violations maxComments).2 := by
  rw [publish]
  split
  · next hempty => exact .nothing (List.isEmpty_iff.mp hempty)
  · next hempty =>
    have hsome : violations ≠ [] := fun h => hempty (List.isEmpty_iff.mpr h)
    have hreview := isReview violations maxComments
    dsimp only
    split
    · next hposted => exact .detailed hsome hreview hposted
    · next failure hrefused =>
      have hreport := Report.endsInRows_markdown hsome
      dsimp only
      cases hcomment : poster.postComment (Report.markdown violations) with
      | ok => exact .summary hsome hreview hrefused hreport hcomment
      | error refusal => exact .refused hsome hreview hrefused hreport hcomment

/-- Two findings on changed lines, and between them one beside. -/
def mixedViolations : List Violation :=
  [⟨"src\\a.ts", 3, .warning, .todo, "TODO comment found", true⟩,
    ⟨"b.ts", 12, .error, .paramTag, "no tag | T", false⟩,
    ⟨"b.ts", 10, .error, .breakpoint, "debugger", true⟩]

/-- A poster that refuses reviews. -/
def commentPoster : Poster where
  postReview _ _ := .error (.review "not a pull request")
  postComment _ := .ok ()

/-- With room for one comment, the review has the first finding inline and a row of the one beside,
and announces that it leaves out another. The comment that takes its place has a row of each. -/
theorem publishes_publish_refusedReview :
    ∃ comments body report,
      Publishes commentPoster mixedViolations 1 [.review comments body, .comment report]
        (.ok .summary) ∧
      comments = [⟨"src/a.ts", 3, "⚠️ **doc-guard/todo**: TODO comment found"⟩] ∧
      Text.firstLine body =
        "doc-guard found 3 violations in 2 files (2 errors, 1 warnings).".toList ++
          truncationNotice 1 ∧
      (Text.splitOnChar '\n' body).tail =
        ["".toList, "1 findings are next to the changed lines rather than on them:", "",
          "## doc-guard report", "",
          "Found **1** violations in **1** files: 1 errors, 0 warnings.", "",
          "| | File | Line | Rule | Message |", "|---|------|-----:|------|---------|",
          "| ❌ | \x60b.ts\x60 | 12 | \x60doc-guard/param-tag\x60 | no tag \\| T |", ""] ∧
      (Text.splitOnChar '\n' report).drop 6 =
        ["| ⚠️ | \x60src/a.ts\x60 | 3 | \x60doc-guard/todo\x60 | TODO comment found |".toList,
          "| ❌ | \x60b.ts\x60 | 12 | \x60doc-guard/param-tag\x60 | no tag \\| T |",
          "| ❌ | \x60b.ts\x60 | 10 | \x60doc-guard/breakpoint\x60 | debugger |", ""] := by
  refine ⟨_, _, _, publishes_publish commentPoster mixedViolations 1, ?_, ?_, ?_, ?_⟩
  all_goals decide +kernel

end Review

end ChangeReview
