/-!
# Searching for a shortest edit script

The search for a short way from old to new lines works on a grid whose points are pairs of an old
and a new line. A step along a diagonal keeps a line, the others delete or insert one. A forward and
a backward front spread at equal cost until they meet, and the parts before and after the meeting
point are searched in the same way.

## Main definitions

- `Edit.Box`: a part of the grid.
- `Edit.Front`: how far a search has come on each diagonal.
- `Edit.changes`: the lines that a short edit script deletes and inserts.
-/

namespace ChangeReview.Edit

/-- A part of the grid, between two old and two new lines. -/
structure Box where
  oldStart : Nat
  oldEnd : Nat
  newStart : Nat
  newEnd : Nat
  deriving DecidableEq, Repr

/-- The number of leading numbers below `bound` that pass the test. -/
def runLength (test : Nat → Bool) (bound : Nat) : Nat := go 0 bound
where
  /-- The count from `start` on, with `left` numbers to go. -/
  go (start : Nat) : Nat → Nat
    | 0 => 0
    | left + 1 => if test start then go (start + 1) left + 1 else 0

section Search

variable {α : Type} [DecidableEq α]

/-- Whether the lines at two indices are equal. -/
def agree (old new : Array α) (i j : Nat) : Bool :=
  match old[i]?, new[j]? with
  | some a, some b => a = b
  | _, _ => false

/-- The number of equal lines from a point on. -/
def runAfter (old new : Array α) (box : Box) (i j : Nat) : Nat :=
  runLength (fun k => agree old new (i + k) (j + k)) (min (box.oldEnd - i) (box.newEnd - j))

/-- The number of equal lines before a point. -/
def runBefore (old new : Array α) (box : Box) (i j : Nat) : Nat :=
  runLength (fun k => agree old new (i - 1 - k) (j - 1 - k))
    (min (i - box.oldStart) (j - box.newStart))

/-- The box without the equal lines at its ends. -/
def Box.trim (old new : Array α) (box : Box) : Box :=
  let front := runAfter old new box box.oldStart box.newStart
  let box := { box with oldStart := box.oldStart + front, newStart := box.newStart + front }
  let back := runBefore old new box box.oldEnd box.newEnd
  { box with oldEnd := box.oldEnd - back, newEnd := box.newEnd - back }

end Search

/-- The number of the diagonal through the start of both sides. -/
def Box.firstDiagonal (box : Box) : Int := box.oldStart - box.newStart

/-- The number of the diagonal through the end of both sides. -/
def Box.lastDiagonal (box : Box) : Int := box.oldEnd - box.newEnd

/-- The lowest diagonal of the box. -/
def Box.lowest (box : Box) : Int := box.oldStart - box.newEnd

/-- The highest diagonal of the box. -/
def Box.highest (box : Box) : Int := box.oldEnd - box.newStart

/-- How far a search has come: the old line that it has reached on each diagonal. -/
structure Front where
  /-- The diagonal of the first value. -/
  base : Int
  values : Array Int
  /-- The lowest diagonal that was searched. -/
  low : Int
  /-- The highest diagonal that was searched. -/
  high : Int
  deriving Repr

namespace Front

/-- The value on a diagonal. -/
def get (front : Front) (diagonal : Int) : Int := front.values.getD (diagonal - front.base).toNat 0

/-- The front with a new value on a diagonal. -/
def set (front : Front) (diagonal value : Int) : Front :=
  { front with values := front.values.setIfInBounds (diagonal - front.base).toNat value }

/-- The front of a search that begins at an old line on a diagonal. -/
def start (box : Box) (diagonal line : Int) : Front :=
  let width := (box.highest - box.lowest + 3).toNat
  let empty : Front :=
    { base := box.lowest - 1, values := Array.replicate width 0, low := diagonal, high := diagonal }
  empty.set diagonal line

/-- The front with one more diagonal below, or one less at the edge of the box. -/
def widenLow (front : Front) (box : Box) (unreached : Int) : Front :=
  if box.lowest < front.low then
    { front.set (front.low - 2) unreached with low := front.low - 1 }
  else { front with low := front.low + 1 }

/-- The front with one more diagonal above, or one less at the edge of the box. -/
def widenHigh (front : Front) (box : Box) (unreached : Int) : Front :=
  if front.high < box.highest then
    { front.set (front.high + 2) unreached with high := front.high + 1 }
  else { front with high := front.high - 1 }

/-- The diagonals of one step of a search: every other one, from the highest to the lowest. -/
def diagonals (front : Front) : List Int :=
  let count := ((front.high - front.low) / 2 + 1).toNat
  (List.range count).map fun (k : Nat) => front.high - 2 * (k : Int)

/-- Whether a diagonal was searched. -/
def covers (front : Front) (diagonal : Int) : Bool := front.low ≤ diagonal && diagonal ≤ front.high

end Front

/-- How a step of a search ends. -/
inductive Advance where
  /-- The two searches meet before an old and a new line. -/
  | meeting (old new : Nat)
  | onward (front : Front)
  deriving Repr

section Search

variable {α : Type} [DecidableEq α]

/-- A step of the forward search. -/
def advance (old new : Array α) (box : Box) (odd : Bool) (backward : Front) (front : Front) :
    List Int → Advance
  | [] => .onward front
  | d :: diagonals =>
    let below := front.get (d - 1)
    let above := front.get (d + 1)
    let i := if below ≥ above then below + 1 else above
    let i := i + runAfter old new box i.toNat (i - d).toNat
    if odd && backward.covers d && backward.get d ≤ i then .meeting i.toNat (i - d).toNat
    else advance old new box odd backward (front.set d i) diagonals

/-- A step of the backward search. -/
def retreat (old new : Array α) (box : Box) (odd : Bool) (forward : Front) (front : Front) :
    List Int → Advance
  | [] => .onward front
  | d :: diagonals =>
    let below := front.get (d - 1)
    let above := front.get (d + 1)
    let i := if below < above then below else above - 1
    let i := i - runBefore old new box i.toNat (i - d).toNat
    if !odd && forward.covers d && i ≤ forward.get d then .meeting i.toNat (i - d).toNat
    else retreat old new box odd forward (front.set d i) diagonals

/-- Where the two searches meet, within a number of steps. -/
def meet? (old new : Array α) (box : Box) (odd : Bool) (forward backward : Front) :
    Nat → Option (Nat × Nat)
  | 0 => none
  | fuel + 1 =>
    let forward := (forward.widenLow box (-1)).widenHigh box (-1)
    match advance old new box odd backward forward forward.diagonals with
    | .meeting i j => some (i, j)
    | .onward forward =>
      let unreached : Int := box.oldEnd + box.newEnd + 1
      let backward := (backward.widenLow box unreached).widenHigh box unreached
      match retreat old new box odd forward backward backward.diagonals with
      | .meeting i j => some (i, j)
      | .onward backward => meet? old new box odd forward backward fuel

/-- A point on a short way through the box. -/
def split? (old new : Array α) (box : Box) : Option (Nat × Nat) :=
  let odd := (box.firstDiagonal - box.lastDiagonal) % 2 != 0
  meet? old new box odd (.start box box.firstDiagonal box.oldStart)
    (.start box box.lastDiagonal box.oldEnd)
    (box.oldEnd - box.oldStart + (box.newEnd - box.newStart) + 1)

/-- The numbers from `first` up to but not including `last`. -/
def between (first last : Nat) : List Nat := List.range' first (last - first)

/-- The old and the new lines in a box that a short edit script deletes and inserts. -/
def changesIn (old new : Array α) : Nat → Box → List Nat × List Nat
  | 0, box => (between box.oldStart box.oldEnd, between box.newStart box.newEnd)
  | fuel + 1, box =>
    let box := box.trim old new
    if box.oldStart = box.oldEnd then ([], between box.newStart box.newEnd)
    else if box.newStart = box.newEnd then (between box.oldStart box.oldEnd, [])
    else
      match split? old new box with
      | none => (between box.oldStart box.oldEnd, between box.newStart box.newEnd)
      | some (i, j) =>
        let front := changesIn old new fuel { box with oldEnd := i, newEnd := j }
        let back := changesIn old new fuel { box with oldStart := i, newStart := j }
        (front.1 ++ back.1, front.2 ++ back.2)

/-- The indices of the old lines that a short edit script deletes, and of the new lines that it
inserts. -/
def changes (old new : Array α) : List Nat × List Nat :=
  changesIn old new (old.size + new.size + 1) ⟨0, old.size, 0, new.size⟩

end Search

end ChangeReview.Edit
