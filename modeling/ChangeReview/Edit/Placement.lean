import ChangeReview.Edit.Selection

/-!
# Where a change is shown

A run of changed lines can slide over equal lines without changing what the edit script does. It is
moved to where it lines up with a change of the other version, or else to where the indentation of
the lines around it makes it easiest to read.

## Main definitions

- `Edit.Slot`: a run of changed lines, with the run of the other version at the same place.
- `Edit.Badness`: how badly the ends of a run suit their surroundings.
- `Edit.place`: the flags of one version after all its runs are moved.
-/

namespace ChangeReview.Edit

/-- A run of changed lines, which may be empty. -/
structure Run where
  first : Nat
  /-- The line after the last one. -/
  stop : Nat
  deriving DecidableEq, Repr

/-- The first line of the changed lines that end before a line. -/
def runFirst (flags : Array Bool) : Nat → Nat
  | 0 => 0
  | i + 1 => if flags.getD i false then runFirst flags i else i + 1

/-- The line after the changed lines that begin at a line. -/
def runStop (flags : Array Bool) (i : Nat) : Nat :=
  i + runLength (fun k => flags.getD (i + k) false) (flags.size - i)

namespace Run

/-- Whether the run has no lines. -/
def isEmpty (run : Run) : Bool := run.first == run.stop

/-- The number of lines. -/
def size (run : Run) : Nat := run.stop - run.first

/-- The run at the start of a version. -/
def initial (flags : Array Bool) : Run := ⟨0, runStop flags 0⟩

/-- The run after the next unchanged line. -/
def next? (flags : Array Bool) (run : Run) : Option Run :=
  if run.stop < flags.size then some ⟨run.stop + 1, runStop flags (run.stop + 1)⟩ else none

/-- The run before the previous unchanged line. -/
def previous? (flags : Array Bool) (run : Run) : Option Run :=
  if run.first = 0 then none else some ⟨runFirst flags (run.first - 1), run.first - 1⟩

end Run

/-- A run of changed lines of one version, with the run of the other version at the same place. -/
structure Slot where
  /-- Which lines of the version are changed. -/
  flags : Array Bool
  run : Run
  /-- The run of the other version. -/
  across : Run

section Lines

variable {α : Type} [DecidableEq α]

namespace Slot

/-- The run one line further up, together with runs that it meets. -/
def up? (lines : Array α) (other : Array Bool) (slot : Slot) : Option Slot :=
  let run := slot.run
  if 0 < run.first && agree lines lines (run.first - 1) (run.stop - 1) then
    let flags := (slot.flags.setIfInBounds (run.first - 1) true).setIfInBounds (run.stop - 1) false
    some
      { flags
        run := ⟨runFirst flags (run.first - 1), run.stop - 1⟩
        across := (slot.across.previous? other).getD slot.across }
  else none

/-- The run one line further down, together with runs that it meets. -/
def down? (lines : Array α) (other : Array Bool) (slot : Slot) : Option Slot :=
  let run := slot.run
  if run.stop < lines.size && agree lines lines run.first run.stop then
    let flags := (slot.flags.setIfInBounds run.first false).setIfInBounds run.stop true
    some
      { flags
        run := ⟨run.first + 1, runStop flags (run.stop + 1)⟩
        across := (slot.across.next? other).getD slot.across }
  else none

/-- The run as far up as it goes. -/
def top (lines : Array α) (other : Array Bool) : Nat → Slot → Slot
  | 0, slot => slot
  | fuel + 1, slot =>
    match slot.up? lines other with
    | none => slot
    | some higher => top lines other fuel higher

/-- The run as far down as it goes, and whether it lined up with a change of the other version on
the way. -/
def bottom (lines : Array α) (other : Array Bool) : Nat → Slot × Bool → Slot × Bool
  | 0, result => result
  | fuel + 1, (slot, aligned) =>
    match slot.down? lines other with
    | none => (slot, aligned)
    | some lower => bottom lines other fuel (lower, aligned || !lower.across.isEmpty)

/-- How far a run can slide. -/
structure Range where
  /-- The run as far down as it goes. -/
  lowest : Slot
  /-- The line after the run, where it is as far up as it goes. -/
  earliestStop : Nat
  /-- Whether some place lines up with a change of the other version. -/
  aligned : Bool

/-- How far a run can slide, together with all runs that it meets. -/
def range (lines : Array α) (other : Array Bool) : Nat → Slot → Range
  | 0, slot => ⟨slot, slot.run.stop, false⟩
  | fuel + 1, slot =>
    let highest := slot.top lines other lines.size
    let (lowest, aligned) :=
      bottom lines other lines.size (highest, !highest.across.isEmpty)
    if lowest.run.size = slot.run.size then ⟨lowest, highest.run.stop, aligned⟩
    else range lines other fuel lowest

/-- The run moved up until it lines up with a change of the other version. -/
def align (lines : Array α) (other : Array Bool) : Nat → Slot → Slot
  | 0, slot => slot
  | fuel + 1, slot =>
    if slot.across.isEmpty then
      match slot.up? lines other with
      | none => slot
      | some higher => align lines other fuel higher
    else slot

/-- The run moved up until it stops before a line. -/
def raise (lines : Array α) (other : Array Bool) (stop : Nat) : Nat → Slot → Slot
  | 0, slot => slot
  | fuel + 1, slot =>
    if stop < slot.run.stop then
      match slot.up? lines other with
      | none => slot
      | some higher => raise lines other stop fuel higher
    else slot

end Slot

end Lines

/-- How badly the two ends of a run suit their surroundings. -/
structure Badness where
  /-- The indentation that is cut. -/
  indent : Int
  /-- What blank lines and changes of the indentation cost. -/
  penalty : Int
  deriving DecidableEq, Repr

namespace Badness

instance : Add Badness := ⟨fun a b => ⟨a.indent + b.indent, a.penalty + b.penalty⟩⟩

/-- Whether the first place is no worse than the second. A deeper cut weighs as much as a penalty of
sixty. -/
def noWorse (a b : Badness) : Bool :=
  60 * (a.indent - b.indent).sign + (a.penalty - b.penalty) ≤ 0

end Badness

/-- How many blank lines before or after a cut are looked at. -/
def maxBlanks : Nat := 20

/-- The number of blank lines at the head of a list, and the indentation of the line after them:
-1 at the end of the list, and none at all after too many blank lines. -/
def indentAfterBlanks (indents : List (Option Nat)) : Nat × Int :=
  let blanks := (indents.takeWhile (· == none)).length
  if maxBlanks ≤ blanks then (maxBlanks, 0)
  else
    match indents[blanks]? with
    | some (some indent) => (blanks, indent)
    | _ => (blanks, -1)

/-- The cost of cutting where the indentation changes, if there are blank lines around the cut or
not. -/
def indentPenalty (blanks : Bool) (before indent after : Int) : Int :=
  if indent = -1 || before = -1 || indent = before then 0
  else if before < indent then if blanks then 10 else -4
  else if after ≠ -1 && indent < after then if blanks then 17 else 24
  else if blanks then 17 else 23

/-- How badly a cut before a line suits its surroundings, given the indentation of each line that is
not blank. -/
def cutBadness (indents : Array (Option Nat)) (cut : Nat) : Badness :=
  let here := (indents[cut]?).join
  let (blanksBefore, before) := indentAfterBlanks (indents.toList.take cut).reverse
  let (blanksAfter, after) := indentAfterBlanks (indents.toList.drop (cut + 1))
  let blanksFrom := if here.isNone then blanksAfter + 1 else 0
  let blanks := blanksBefore + blanksFrom
  let indent : Int :=
    match here with
    | some indent => indent
    | none => after
  { indent
    penalty :=
      (if before = -1 && blanksBefore = 0 then 1 else 0) +
        (if indents.size ≤ cut then 21 else 0) - 30 * (blanks : Int) + 6 * (blanksFrom : Int) +
        indentPenalty (blanks != 0) before indent after }

/-- How badly a run of `size` lines suits its surroundings if it stops before a line. -/
def runBadness (indents : Array (Option Nat)) (size stop : Nat) : Badness :=
  cutBadness indents stop + cutBadness indents (stop - size)

/-- How far up a run is moved for the sake of indentation. -/
def maxSliding : Nat := 100

/-- The best line for a run of `size` lines to stop before: the lowest of the best ones. -/
def bestStop (indents : Array (Option Nat)) (size earliest latest : Nat) : Nat :=
  let first := max earliest (max (latest - size - 1) (latest - maxSliding))
  let start := (first, runBadness indents size first)
  let best := (between (first + 1) (latest + 1)).foldl
    (fun best stop =>
      let badness := runBadness indents size stop
      if badness.noWorse best.2 then (stop, badness) else best)
    start
  best.1

section Lines

variable {α : Type} [DecidableEq α]

/-- A run moved to where it is shown. -/
def Slot.settle (lines : Array α) (indents : Array (Option Nat)) (other : Array Bool)
    (slot : Slot) : Slot :=
  if slot.run.isEmpty then slot
  else
    let range := slot.range lines other lines.size
    let lowest := range.lowest
    if lowest.run.stop = range.earliestStop then lowest
    else if range.aligned then lowest.align lines other lines.size
    else
      let stop := bestStop indents lowest.run.size range.earliestStop lowest.run.stop
      lowest.raise lines other stop lines.size

/-- The flags after a run and all runs below it are moved. -/
def placeFrom (lines : Array α) (indents : Array (Option Nat)) (other : Array Bool) :
    Nat → Slot → Array Bool
  | 0, slot => slot.flags
  | fuel + 1, slot =>
    let slot := slot.settle lines indents other
    match slot.run.next? slot.flags with
    | none => slot.flags
    | some run =>
      let across := (slot.across.next? other).getD slot.across
      placeFrom lines indents other fuel { slot with run, across }

/-- The flags of one version after all its runs are moved. -/
def place (lines : Array α) (indents : Array (Option Nat)) (flags other : Array Bool) :
    Array Bool :=
  placeFrom lines indents other (lines.size + 1) ⟨flags, .initial flags, .initial other⟩

end Lines

end ChangeReview.Edit
