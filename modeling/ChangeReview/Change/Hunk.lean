import ChangeReview.Change

/-!
# Hunk headers

A unified diff announces each of its hunks in a line `@@ -a,b +c,d @@`, where `c` is the first line
of the hunk in the new version of the file and `d` the number of lines it has there; a count of one
may be left out.

## Main definitions

- `NewSide.ofLine?`: the new side of a hunk header.
- `ChangedLines.ofDiff`: the ranges of all hunks that add lines.
-/

namespace ChangeReview

/-- The value of decimal digits, unless a digit is not ASCII or the value is out of bounds. -/
def boundedNumber? (digits : Text) : Option Nat :=
  if digits.all Char.isDigit then
    let value := digits.foldl (fun value c => 10 * value + (c.toNat - '0'.toNat)) 0
    if value < numberBound then some value else none
  else none

/-- The first line and the number of lines that a hunk has in the new version of a file. -/
structure NewSide where
  start : Nat
  count : Nat
  deriving DecidableEq, Repr

namespace NewSide

/-- The longest run of decimal digits at the head of the text, unless it is empty. -/
def takeDigits? (text : Text) : Option (Text × Text) :=
  if text.head?.any isDecimalDigit then
    some (text.takeWhile isDecimalDigit, text.dropWhile isDecimalDigit)
  else none

/-- A start and an optional count after a comma, as digits. -/
def takeSide? (text : Text) : Option ((Text × Option Text) × Text) := do
  let (start, rest) ← takeDigits? text
  if headIs ',' rest then
    let (count, rest) ← takeDigits? (rest.drop 1)
    some ((start, some count), rest)
  else some ((start, none), rest)

/-- Removes `mark` from the head of the text. -/
def expect? (mark text : Text) : Option Text :=
  if mark.isPrefixOf text then some (text.drop mark.length) else none

/-- The new side that a line announces, if the line is a hunk header. A start that is out of bounds
counts as zero, and a count that is absent or out of bounds as one. -/
def ofLine? (line : Text) : Option NewSide := do
  let (_, rest) ← takeSide? (← expect? "@@ -" line)
  let ((start, count), rest) ← takeSide? (← expect? " +" rest)
  let _ ← expect? " @@" rest
  some ⟨(boundedNumber? start).getD 0, (count.bind boundedNumber?).getD 1⟩

/-- The lines of the new side, if it has any. -/
def range? (side : NewSide) : Option LineRange :=
  if 0 < side.start && 0 < side.count then
    some ⟨side.start, wrap (side.start + side.count - 1)⟩
  else none

end NewSide

namespace ChangedLines

/-- The ranges that the hunks of a unified diff add to the new version of the file. What follows a
header on its line, a heading or a carriage return, has no say. -/
def ofDiff (diff : Text) : ChangedLines :=
  ⟨(Text.splitOnChar '\n' diff).filterMap fun line => (NewSide.ofLine? line).bind NewSide.range?⟩

end ChangedLines

end ChangeReview
