import ChangeReview.Text

/-!
# Lines

A file's lines end with a line feed, or with a carriage return and a line feed. The last line may be
empty.

## Main definitions

- `Text.lines`: the lines of a file, without their ends.
- `Text.lineCount`: how many lines a file has.
-/

namespace ChangeReview.Text

/-- Drops one carriage return at the end of a line. -/
def dropReturn (line : Text) : Text := if line.getLast? == some '\r' then line.dropLast else line

/-- The lines of a file, without their ends. -/
def lines (content : Text) : List Text := (splitOnChar '\n' content).map dropReturn

/-- The number of lines of a file. -/
def lineCount (content : Text) : Nat := (lines content).length

end ChangeReview.Text
