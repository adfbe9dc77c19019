import ChangeReview.Failure
import ChangeReview.Report.Color

/-!
# Notices

What is written about a failure or a warning: a heading with the message, then the cause and a
suggestion if there are any.

## Main definitions

- `Report.failure`: the notice of a failure.
- `Report.warning`: the notice of a warning.
-/

namespace ChangeReview.Report

/-- The line with the icon, the heading and the message. -/
def noticeHead (color : Bool) (tint : Color) (icon heading message : Text) : Text :=
  let label := Text.concat [icon, " ", heading, ":"]
  let painted :=
    if color then Text.concat [Color.bold.start, tint.start, label, Color.reset] else label
  Text.concat [painted, " ", message]

/-- The lines of a notice. -/
def noticeLines (color : Bool) (tint : Color) (icon heading message : Text)
    (detail suggestion : Option Text) : List Text :=
  noticeHead color tint icon heading message ::
    (detail.toList.map fun detail =>
      Text.concat ["  ", Color.dim.paint color (Text.concat ["× ", detail])]) ++
    suggestion.toList.map fun suggestion =>
      Text.concat ["  ", Color.cyan.paint color "help:", " ", suggestion]

/-- The notice of a failure. -/
def failure (color : Bool) (failure : Failure) : Text :=
  Text.unlines
    (noticeLines color .red "✖" failure.category failure.message failure.detail
      failure.suggestion)

/-- The notice of a warning. -/
def warning (color : Bool) (message : Text) (suggestion : Option Text) : Text :=
  Text.unlines (noticeLines color .yellow "⚠" "Warning" message none suggestion)

end ChangeReview.Report
