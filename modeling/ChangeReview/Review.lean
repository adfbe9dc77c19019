import ChangeReview.Failure
import ChangeReview.Report

/-!
# Publishing a review

Findings on changed lines become inline comments of one review; the others are listed in its body.
If the review is refused, a single comment holds the whole report.

## Main definitions

- `Review.Comment`: an inline comment.
- `Review.Poster`: the two calls that publish something, each of which may fail.
- `Review.publish`: the calls that are made, and how the publication ends.
-/

namespace ChangeReview.Review

/-- An inline comment on a line of the new version of a file. -/
structure Comment where
  path : Text
  line : Nat
  body : Text
  deriving DecidableEq, Repr

/-- The comment for a finding. -/
def Comment.ofViolation (violation : Violation) : Comment :=
  { path := displayPath violation.path none
    line := violation.line
    body := Text.concat
      [Report.emoji violation.severity, " **", violation.rule.id, "**: ", violation.message] }

/-- A call that publishes something. -/
inductive Call where
  /-- One review with inline comments and a body. -/
  | review (comments : List Comment) (body : Text)
  /-- One comment on the conversation. -/
  | comment (body : Text)
  deriving DecidableEq, Repr

/-- What answers the calls, either of which may be refused. -/
structure Poster where
  postReview : List Comment → Text → Except Failure Unit
  postComment : Text → Except Failure Unit

/-- How a publication ends. -/
inductive Outcome where
  /-- A review with this many inline comments was posted. -/
  | detailed (comments : Nat)
  /-- The review was refused and one comment posted. -/
  | summary
  /-- There was nothing to post. -/
  | nothing
  deriving DecidableEq, Repr

/-- The sentence about an outcome. -/
def Outcome.describe : Outcome → Text
  | detailed comments =>
    Text.concat ["Posted review with ", Text.ofNat comments, " inline comments"]
  | summary => "Posted summary comment (inline review failed)"
  | nothing => "No violations in the changed lines"

/-- The findings that become inline comments, if there is room for all of them. -/
def anchored (violations : List Violation) : List Violation :=
  violations.filter (·.onChangedLine)

/-- The findings that no inline comment can hold. -/
def beside (violations : List Violation) : List Violation :=
  violations.filter (!·.onChangedLine)

/-- The inline comments of a review. -/
def comments (violations : List Violation) (maxComments : Nat) : List Comment :=
  ((anchored violations).take maxComments).map Comment.ofViolation

/-- The first sentences of a review's body. -/
def headline (violations : List Violation) (shown : Nat) : Text :=
  let summary := Violation.summarize violations
  Text.concat
    ["doc-guard found ", Text.ofNat summary.total, " violations in ", Text.ofNat summary.files,
      " files (", Text.ofNat summary.errors, " errors, ", Text.ofNat summary.warnings,
      " warnings).",
      if shown < (anchored violations).length then
        Text.concat [" Showing the first ", Text.ofNat shown, " as inline comments."]
      else []]

/-- The part of a review's body about findings beside the changed lines. -/
def besidePart (violations : List Violation) : Text :=
  if (beside violations).isEmpty then []
  else
    Text.concat
      ["\n\n", Text.ofNat (beside violations).length,
        " findings are next to the changed lines rather than on them:\n\n",
        Report.markdown (beside violations)]

/-- The body of a review. -/
def body (violations : List Violation) (maxComments : Nat) : Text :=
  headline violations (comments violations maxComments).length ++ besidePart violations

/-- The calls that are made to publish the findings, and how the publication ends. -/
def publish (poster : Poster) (violations : List Violation) (maxComments : Nat) :
    List Call × Except Failure Outcome :=
  if violations.isEmpty then ([], .ok .nothing)
  else
    let comments := comments violations maxComments
    let body := body violations maxComments
    match poster.postReview comments body with
    | .ok () => ([.review comments body], .ok (.detailed comments.length))
    | .error _ =>
      let report := Report.markdown violations
      ([.review comments body, .comment report],
        (poster.postComment report).map fun () => .summary)

end ChangeReview.Review
