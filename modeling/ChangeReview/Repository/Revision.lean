import ChangeReview.Failure
import ChangeReview.Repository.ObjectName
import ChangeReview.Text.Visible

/-!
# Revisions

A revision is the name of a reference with steps to ancestors after it: a tilde with a number goes
along first parents, and a caret with a number to one of the parents.

## Main definitions

- `Revision`: a name with steps.
- `Revision.parse?`: the revision that a text spells.
- `Revision.Fault`: why a text stands for no commit.
- `Repository.resolve`: the commit that a text stands for.
-/

namespace ChangeReview

/-- A step from a commit to an older one. -/
inductive RevisionStep where
  /-- So many first parents back. -/
  | ancestor (count : Nat)
  /-- To the parent with this number, counted from one, or nowhere for zero. -/
  | parent (number : Nat)
  deriving DecidableEq, Repr

/-- The name of a reference with steps. -/
structure Revision where
  name : Text
  steps : List RevisionStep
  deriving DecidableEq, Repr

namespace Revision

/-- Whether a character begins a step. -/
def beginsStep (c : Char) : Bool := c == '~' || c == '^'

/-- What may stand in braces after a caret without a further step. -/
def peelings : List Text := ["\x7b\x7d", "\x7bcommit\x7d"]

/-- The step that a mark and the text up to the next mark spell. -/
def step? (mark : Char) (text : Text) : Option RevisionStep :=
  if text.isEmpty then some (if mark = '~' then .ancestor 1 else .parent 1)
  else if text.all Char.isDigit then
    let number := text.foldl (fun value c => 10 * value + (c.toNat - '0'.toNat)) 0
    some (if mark = '~' then .ancestor number else .parent number)
  else if mark = '^' && peelings.contains text then some (.parent 0)
  else none

/-- The text up to the first mark, and the marks with the texts after them. -/
def pieces : Text → Text × List (Char × Text)
  | [] => ([], [])
  | c :: rest =>
    let (first, others) := pieces rest
    if beginsStep c then ([], (c, first) :: others) else (c :: first, others)

/-- The revision that a text spells. -/
def parse? (text : Text) : Option Revision := do
  let (name, marks) := pieces text
  let steps ← marks.mapM fun (mark, text) => step? mark text
  some { name, steps }

/-- The texts before and after the two dots of a range, or three. -/
def range? : Text → Option (Text × Text)
  | '.' :: '.' :: '.' :: rest => some ([], rest)
  | '.' :: '.' :: rest => some ([], rest)
  | [] => none
  | c :: rest => (range? rest).map fun (first, last) => (c :: first, last)

/-- A character that no name of a reference holds. -/
def isForbidden (c : Char) : Bool :=
  c.toNat ≤ 0x20 || c.toNat == 0x7f || "~^:?*[\\".toList.contains c

/-- Whether a text may be the name of a reference, or its end. -/
def isName (text : Text) : Bool :=
  !text.any isForbidden && !Text.contains "@\x7b" text && text.getLast? != some '.' &&
    (Text.splitOnChar '/' text).all fun part =>
      !part.isEmpty && !headIs '.' part && !List.isSuffixOf ".lock".toList part

/-- A hexadecimal digit. -/
def isHexDigit (c : Char) : Bool := c.isDigit || ('a' ≤ c.toLower && c.toLower ≤ 'f')

/-- Whether a text may be the name of an object, or its beginning. -/
def isObjectName (text : Text) : Bool :=
  4 ≤ text.length && text.length ≤ 40 && text.all isHexDigit

/-- Why a text stands for no commit. -/
inductive Fault where
  /-- There is no reference of the name. -/
  | unknownReference (name : Text)
  /-- No reference can have the name. -/
  | invalidName
  /-- No object has a name that begins with the digits. -/
  | unknownObject (digits : Text)
  /-- The branch that is checked out has no commit. -/
  | unborn (name : Text)
  /-- A commit has fewer ancestors along first parents. -/
  | missingAncestor (commit : Text) (available desired : Nat)
  /-- A commit has fewer parents. -/
  | missingParent (commit : Text) (available desired : Nat)
  /-- The text stands for several commits. -/
  | severalCommits (text : Text)
  /-- The text is empty. -/
  | noName
  deriving DecidableEq, Repr

/-- Why a text stands for no commit, in words. -/
def Fault.message : Fault → Text
  | unknownReference name =>
    Text.concat ["The ref partially named ", Text.quoteVisibly name, " could not be found"]
  | invalidName => "An error occurred while trying to find a reference"
  | unknownObject digits => Text.concat ["An object prefixed ", digits, " could not be found"]
  | unborn name => Text.concat ["Could not peel '", name, "' to obtain its target"]
  | missingAncestor commit available desired =>
    Text.concat
      ["Commit ", commit, " has ", Text.ofNat available,
        " ancestors along the first parent and ancestor number ", Text.ofNat desired,
        " is out of range"]
  | missingParent commit available desired =>
    Text.concat
      ["Commit ", commit, " has ", Text.ofNat available, " parents and parent number ",
        Text.ofNat desired, " is out of range"]
  | severalCommits text =>
    Text.concat ["revspec ", Text.quoteVisibly text, " did not resolve to a single object"]
  | noName => "The rev-spec is malformed and misses a ref name"

end Revision

namespace Repository

open Revision (Fault)

/-- The commit that a name stands for. -/
def named (repository : Repository) (name : Text) : Except Fault CommitId :=
  if name == headName || name == ['@'] then
    match repository.headId? with
    | some id => .ok id
    | none => .error (.unborn headName)
  else
    match repository.reference? name with
    | some id => .ok id
    | none =>
      if Revision.isObjectName name then
        let digits := name.map Char.toLower
        match repository.commitOfDigits? digits with
        | some id => .ok id
        | none => .error (.unknownObject digits)
      else .error (if Revision.isName name then .unknownReference name else .invalidName)

/-- A commit with its ancestors along first parents, within a number of generations. -/
def firstParents (repository : Repository) : Nat → CommitId → List CommitId
  | 0, id => [id]
  | fuel + 1, id =>
    match (repository.commit? id).bind (·.parents.head?) with
    | none => [id]
    | some parent => id :: repository.firstParents fuel parent

/-- The commit that a step leads to. -/
def follow (repository : Repository) (id : CommitId) : RevisionStep → Except Fault CommitId
  | .ancestor count =>
    let ancestors := repository.firstParents repository.commits.length id
    match ancestors[count]? with
    | some id => .ok id
    | none => .error (.missingAncestor (repository.shortName id) (ancestors.length - 1) count)
  | .parent 0 => .ok id
  | .parent (number + 1) =>
    let parents := ((repository.commit? id).map (·.parents)).getD []
    match parents[number]? with
    | some id => .ok id
    | none => .error (.missingParent (repository.shortName id) parents.length (number + 1))

/-- The commit that a revision stands for. -/
def resolveOne (repository : Repository) (text : Text) : Except Fault CommitId :=
  match Revision.parse? text with
  | none => .error (.unknownReference text)
  | some revision => do
    let id ← repository.named revision.name
    revision.steps.foldlM repository.follow id

/-- The commit that one side of a range stands for. An empty side is what is checked out. -/
def resolveSide (repository : Repository) (text : Text) : Except Fault CommitId :=
  repository.resolveOne (if text.isEmpty then headName else text)

/-- The commit that a text stands for, unless it stands for several or none. -/
def resolve? (repository : Repository) (text : Text) : Except Fault CommitId :=
  match text, Revision.range? text with
  | [], _ => .error .noName
  | '^' :: rest, _ => do
    let _ ← repository.resolveSide rest
    .error (.severalCommits text)
  | _, some (first, last) => do
    let _ ← repository.resolveSide first
    let _ ← repository.resolveSide last
    .error (.severalCommits text)
  | _, none => repository.resolveOne text

/-- The commit that a text stands for. -/
def resolve (repository : Repository) (text : Text) : Except Failure CommitId :=
  match repository.resolve? text with
  | .ok id => .ok id
  | .error fault =>
    .error (.repository
      (Text.concat ["Failed to parse reference '", text, "': ", fault.message]))

/-- The tree of the commit that a text stands for. -/
def treeOf (repository : Repository) (text : Text) : Except Failure Snapshot := do
  let id ← repository.resolve text
  .ok (((repository.commit? id).map (·.tree)).getD .empty)

end Repository

end ChangeReview
