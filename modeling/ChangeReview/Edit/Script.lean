import ChangeReview.Edit
import ChangeReview.Edit.Placement
import ChangeReview.Text.Utf8

/-!
# The edit script between two files

Two files are compared line by line. Long equal parts at their ends are left out of the comparison.

## Main definitions

- `FileLine`: a line of a file as bytes.
- `Edit.script`: the edit script that keeps the lines without a flag.
- `Edit.ofContents`: the edit script between two files.
-/

namespace ChangeReview

/-- A line of a file. -/
structure FileLine where
  /-- The line without its end. -/
  bytes : Bytes
  /-- Whether a line feed ends the line. -/
  terminated : Bool
  deriving DecidableEq, Repr

namespace FileLine

/-- The byte that ends a line. -/
def lineFeed : UInt8 := 10

/-- The lines of a content. Only the last one may lack its line feed. -/
def ofContent : Bytes → List FileLine
  | [] => []
  | b :: rest =>
    if b = lineFeed then ⟨[], true⟩ :: ofContent rest
    else
      match ofContent rest with
      | [] => [⟨[b], false⟩]
      | line :: lines => { line with bytes := b :: line.bytes } :: lines

/-- The content of lines. -/
def content (lines : List FileLine) : Bytes :=
  lines.flatMap fun line => line.bytes ++ if line.terminated then [lineFeed] else []

/-- The line as a text. -/
def decode (line : FileLine) : DiffLine := ⟨Text.ofUtf8Lossy line.bytes, line.terminated⟩

/-- The largest indentation that is told apart. -/
def maxIndent : Nat := 200

/-- The column after blanks that begin at a column, or nothing if only blanks follow. -/
def indentFrom (column : Nat) : Bytes → Option Nat
  | [] => if maxIndent ≤ column then some maxIndent else none
  | b :: rest =>
    if maxIndent ≤ column then some maxIndent
    else if b = 32 then indentFrom (column + 1) rest
    else if b = 9 then indentFrom (column + (8 - column % 8)) rest
    else if b = 13 then indentFrom column rest
    else some column

/-- The indentation of a line that is not blank. -/
def indent (line : FileLine) : Option Nat := indentFrom 0 line.bytes

end FileLine

namespace Edit

/-- The edit script between two versions whose changed lines have a flag. -/
def script : List (DiffLine × Bool) → List (DiffLine × Bool) → List Edit
  | [], [] => []
  | (line, _) :: old, [] => delete line :: script old []
  | [], (line, _) :: new => insert line :: script [] new
  | (line, true) :: old, new :: rest => delete line :: script old (new :: rest)
  | (line, false) :: old, (added, true) :: new =>
    insert added :: script ((line, false) :: old) new
  | (line, false) :: old, (_, false) :: new => keep line :: script old new
termination_by old new => old.length + new.length

/-- The edit script between two versions. -/
def ofLines (old new : List FileLine) : List Edit :=
  let oldLines := old.toArray
  let newLines := new.toArray
  let (deleted, inserted) := changedLines oldLines newLines
  let deleted := place oldLines (oldLines.map (·.indent)) deleted inserted
  let inserted := place newLines (newLines.map (·.indent)) inserted deleted
  script ((old.map (·.decode)).zip deleted.toList) ((new.map (·.decode)).zip inserted.toList)

/-- The number of bytes that are compared at once at the ends of two files. -/
def blockSize : Nat := 1024

/-- The number of bytes in the equal blocks at the starts of two contents. -/
def equalBlocks (a b : Bytes) : Nat → Nat
  | 0 => 0
  | fuel + 1 =>
    if blockSize ≤ a.length && a.take blockSize == b.take blockSize then
      blockSize + equalBlocks (a.drop blockSize) (b.drop blockSize) fuel
    else 0

/-- The number of bytes at the ends of two contents that take no part in the comparison: equal
blocks, less what belongs to a line that begins before them. -/
def commonTail (old new : Bytes) : Nat :=
  let equal := equalBlocks old.reverse new.reverse (old.length / blockSize)
  let tail := old.drop (old.length - equal)
  let recovered := (tail.takeWhile (· != FileLine.lineFeed)).length + 1
  equal - recovered

/-- The edit script between two files. The equal lines at their ends that take no part in the
comparison are not in it. -/
def ofContents (old new : Bytes) : List Edit :=
  let tail := commonTail old new
  ofLines (FileLine.ofContent (old.take (old.length - tail)))
    (FileLine.ofContent (new.take (new.length - tail)))

end Edit

end ChangeReview
