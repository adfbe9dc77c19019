import ChangeReview.Text

/-!
# Colours

Terminal colours around parts of a report.

## Main definitions

- `Color`: the styles that reports use, with their terminal sequences.
- `Color.paint`: a text in a colour, or as it is if colours are off.
- `ColorMode`: when colours are on.
-/

namespace ChangeReview

/-- A terminal style. -/
inductive Color where
  | red
  | green
  | yellow
  | cyan
  | bold
  | dim
  deriving DecidableEq, Repr

namespace Color

/-- The sequence that switches a style on. -/
def start : Color → Text
  | red => "\x1b[31m"
  | green => "\x1b[32m"
  | yellow => "\x1b[33m"
  | cyan => "\x1b[36m"
  | bold => "\x1b[1m"
  | dim => "\x1b[2m"

/-- The sequence that switches all styles off. -/
def reset : Text := "\x1b[0m"

/-- The text in a style, or as it is if colours are off. -/
def paint (enabled : Bool) (color : Color) (text : Text) : Text :=
  if enabled then Text.concat [color.start, text, reset] else text

end Color

/-- When reports are coloured. -/
inductive ColorMode where
  /-- If the output is a terminal and nothing speaks against it. -/
  | auto
  | always
  | never
  deriving DecidableEq, Repr

/-- Whether a report is coloured, given whether colours suit the place it goes to. -/
def ColorMode.enabled (suitable : Bool) : ColorMode → Bool
  | auto => suitable
  | always => true
  | never => false

end ChangeReview
