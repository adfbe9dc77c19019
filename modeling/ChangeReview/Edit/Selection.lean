import ChangeReview.Edit.Search

/-!
# Lines worth searching

A line that does not occur in the other version is certainly deleted or inserted. So is a line that
occurs there very often, if it stands among lines of the first kind. Only the other lines take part
in the search for a short edit script.

## Main definitions

- `Edit.Presence`: how often a line occurs in the other version.
- `Edit.changedLines`: which old and new lines a short edit script deletes and inserts.
-/

namespace ChangeReview.Edit

/-- How often a line occurs in the other version. -/
inductive Presence where
  | never
  | seldom
  | often
  deriving DecidableEq, Repr

/-- Twice two to the number of base-four digits of a number, halved: a rough square root. -/
def roughRoot (n : Nat) : Nat := if n = 0 then 1 else 2 * roughRoot (n / 4)
termination_by n

/-- The number of occurrences from which a line of a version of `count` lines is frequent. -/
def frequent (count : Nat) : Nat := min (roughRoot count) 1024

/-- How many lines before and after a frequent line are looked at. -/
def surroundings : Nat := 100

/-- The run of lines that occur never or often at the start of a list: how many occur never, and
how many often. -/
def unstableRun (presences : List Presence) : Nat × Nat :=
  let run := (presences.take surroundings).takeWhile (· != .seldom)
  (run.count .never, run.count .often)

/-- Whether a frequent line does not take part in the search, given the presences before it, the
nearest first, and after it. -/
def isDropped (before after : List Presence) : Bool :=
  let (never, often) := unstableRun before
  let (neverAfter, oftenAfter) := unstableRun after
  if never = 0 || neverAfter = 0 then false
  else
    let frequent := often + oftenAfter + 2
    frequent * 4 < frequent + never + neverAfter

/-- Which of the lines take part in the search, given the presences before them, the nearest
first. -/
def selectFrom (before : List Presence) : List Presence → List Bool
  | [] => []
  | presence :: after =>
    let selected :=
      match presence with
      | .never => false
      | .seldom => true
      | .often => !isDropped before after
    selected :: selectFrom (presence :: before) after

section Lines

variable {α : Type} [DecidableEq α]

/-- How often a line of a version of `count` lines occurs in the other version. -/
def presence (count : Nat) (other : List α) (line : α) : Presence :=
  let occurrences := other.count line
  if occurrences = 0 then .never
  else if frequent count ≤ occurrences then .often
  else .seldom

/-- The indices, from `start` on, of the lines of one version that take part in the search. `count`
is the number of lines of that version. -/
def selected (count start : Nat) (lines other : List α) : List Nat :=
  let flags := selectFrom [] (lines.map (presence count other))
  (flags.zipIdx start).filterMap fun (flag, index) => if flag then some index else none

/-- Sets the flags at the given indices. -/
def setAll (value : Bool) (indices : List Nat) (flags : Array Bool) : Array Bool :=
  indices.foldl (fun flags i => flags.setIfInBounds i value) flags

/-- The flags of a version of `count` lines: those between two lines are set, except for the lines
that took part in the search and that it did not change. -/
def flagsOf (count first last : Nat) (searched : Array Nat) (changed : List Nat) : Array Bool :=
  setAll true (changed.filterMap (searched[·]?))
    (setAll false searched.toList
      (setAll true (between first last) (Array.replicate count false)))

/-- Which old lines are deleted and which new lines are inserted by a short edit script. -/
def changedLines (old new : Array α) : Array Bool × Array Bool :=
  let box := Box.trim old new ⟨0, old.size, 0, new.size⟩
  let oldMiddle := (old.toList.drop box.oldStart).take (box.oldEnd - box.oldStart)
  let newMiddle := (new.toList.drop box.newStart).take (box.newEnd - box.newStart)
  let oldIndices := (selected old.size box.oldStart oldMiddle new.toList).toArray
  let newIndices := (selected new.size box.newStart newMiddle old.toList).toArray
  let (deleted, inserted) :=
    changes (oldIndices.filterMap (old[·]?)) (newIndices.filterMap (new[·]?))
  (flagsOf old.size box.oldStart box.oldEnd oldIndices deleted,
    flagsOf new.size box.newStart box.newEnd newIndices inserted)

end Lines

end ChangeReview.Edit
