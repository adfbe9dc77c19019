import ChangeReview.Text.Digit

/-!
# Changed lines

The lines that a change added to the new version of a file, as inclusive ranges. The numbers of
lines are machine words: a sum that comes up to the bound of a word starts again at zero.

## Main definitions

- `wrap`: what a machine word keeps of a number.
- `LineRange`: an inclusive range of line numbers.
- `ChangedLines`: ranges in order, with membership and nearness of a line.
- `ChangedLines.ofDiff`: the ranges that the hunk headers of a unified diff announce.
-/

namespace ChangeReview

/-- The first number that is too large for a machine word. -/
def numberBound : Nat := Nat.pow 2 64

/-- What a machine word keeps of a number. -/
def wrap (number : Nat) : Nat := number % numberBound

theorem wrap_of_lt {number : Nat} (h : number < numberBound) : wrap number = number :=
  Nat.mod_eq_of_lt h

/-- The lines from `first` to `last`, both included and counted from one. -/
structure LineRange where
  first : Nat
  last : Nat
  deriving DecidableEq, Repr

namespace LineRange

/-- Whether the line lies in the range. -/
def contains (range : LineRange) (line : Nat) : Bool := range.first ≤ line && line ≤ range.last

/-- Whether the line lies in the range or at most `margin` lines after its end. -/
def isNear (range : LineRange) (line margin : Nat) : Bool :=
  range.first ≤ line && line ≤ wrap (range.last + margin)

end LineRange

/-- The ranges of changed lines, in the order of the change. -/
structure ChangedLines where
  ranges : List LineRange
  deriving DecidableEq, Repr

namespace ChangedLines

/-- Every line of a file of `count` lines. -/
def wholeFile (count : Nat) : ChangedLines := ⟨if count = 0 then [] else [⟨1, count⟩]⟩

/-- Whether the line is changed. -/
def contains (changed : ChangedLines) (line : Nat) : Bool := changed.ranges.any (·.contains line)

/-- Whether the line is changed or at most `margin` lines after a changed range. -/
def isNear (changed : ChangedLines) (line margin : Nat) : Bool :=
  changed.ranges.any (·.isNear line margin)

/-- Whether nothing changed. -/
def isEmpty (changed : ChangedLines) : Bool := changed.ranges.isEmpty

end ChangedLines

end ChangeReview
