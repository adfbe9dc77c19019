import ChangeReview.Text

/-!
# Edit scripts

An edit script leads from the old lines of a file to the new ones. Written as a unified diff without
context, each longest run of deletions and insertions is one hunk.

## Main definitions

- `Edit`: a kept, deleted or inserted line.
- `Edit.oldLines`, `Edit.newLines`: the two versions of the file.
- `Hunk`: a run of deletions and insertions, with its place in both versions.
- `Edit.hunks`, `Edit.unified`: the hunks of a script, and their text.
-/

namespace ChangeReview

/-- A line of a file. -/
structure DiffLine where
  /-- The line without its end. -/
  text : Text
  /-- Whether a line feed ends the line. -/
  terminated : Bool := true
  deriving DecidableEq, Repr

/-- A step from the old lines of a file to the new ones. -/
inductive Edit where
  | keep (line : DiffLine)
  | delete (line : DiffLine)
  | insert (line : DiffLine)
  deriving DecidableEq, Repr

/-- A run of deletions and insertions. -/
structure Hunk where
  /-- The number of lines before it in the old version. -/
  oldBefore : Nat
  /-- The number of lines before it in the new version. -/
  newBefore : Nat
  deleted : List DiffLine
  inserted : List DiffLine
  deriving DecidableEq, Repr

namespace Hunk

/-- Whether nothing is deleted or inserted. -/
def isEmpty (hunk : Hunk) : Bool := hunk.deleted.isEmpty && hunk.inserted.isEmpty

/-- A side of a header: the first line, and the number of lines unless it is one. A side without
lines names the line before it. -/
def side (before count : Nat) : Text :=
  Text.ofNat (if count = 0 then before else before + 1) ++
    if count = 1 then [] else ',' :: Text.ofNat count

/-- The header of a hunk. -/
def header (hunk : Hunk) : Text :=
  Text.concat
    ["@@ -", side hunk.oldBefore hunk.deleted.length, " +",
      side hunk.newBefore hunk.inserted.length, " @@"]

/-- The lines that show one line of a file after a mark. -/
def bodyLine (mark : Char) (line : DiffLine) : List Text :=
  (mark :: line.text) :: if line.terminated then [] else ["\\ No newline at end of file"]

/-- The lines of a hunk. -/
def lines (hunk : Hunk) : List Text :=
  hunk.header :: hunk.deleted.flatMap (bodyLine '-') ++ hunk.inserted.flatMap (bodyLine '+')

/-- The hunk as a list, unless it is empty. -/
def toList (hunk : Hunk) : List Hunk := if hunk.isEmpty then [] else [hunk]

end Hunk

namespace Edit

/-- The lines of the old version. -/
def oldLines : List Edit → List DiffLine
  | [] => []
  | keep line :: edits => line :: oldLines edits
  | delete line :: edits => line :: oldLines edits
  | insert _ :: edits => oldLines edits

/-- The lines of the new version. -/
def newLines : List Edit → List DiffLine
  | [] => []
  | keep line :: edits => line :: newLines edits
  | delete _ :: edits => newLines edits
  | insert line :: edits => line :: newLines edits

/-- The hunks of a script that goes on after a hunk. -/
def hunksAfter (hunk : Hunk) : List Edit → List Hunk
  | [] => hunk.toList
  | keep _ :: edits =>
    let next : Hunk :=
      { oldBefore := hunk.oldBefore + hunk.deleted.length + 1
        newBefore := hunk.newBefore + hunk.inserted.length + 1
        deleted := []
        inserted := [] }
    hunk.toList ++ hunksAfter next edits
  | delete line :: edits => hunksAfter { hunk with deleted := hunk.deleted ++ [line] } edits
  | insert line :: edits => hunksAfter { hunk with inserted := hunk.inserted ++ [line] } edits

/-- The hunks of a script. -/
def hunks (edits : List Edit) : List Hunk := hunksAfter ⟨0, 0, [], []⟩ edits

/-- The text of a unified diff without context, after the lines that name the file. -/
def unified (preamble : List Text) (edits : List Edit) : Text :=
  Text.unlines (preamble ++ (hunks edits).flatMap Hunk.lines)

end Edit

end ChangeReview
