import ChangeReview.Check
import ChangeReview.Edit.Script
import ChangeReview.JsonValue
import ChangeReview.Repository.PathRule
import ChangeReview.Repository.Rename
import ChangeReview.Repository.Revision

/-!
# Comparing a commit with the files

The changed files are those of the checked out commit that differ from a base. Their diffs lead from
the base to the files as they are now. A file that the index does not know counts as absent.

## Main definitions

- `FileObject.diff`: the diff between two objects under a path.
- `Checkout`: a repository with its directory.
- `Checkout.diff`: the diff of the files that a pattern selects.
- `Checkout.changes`: what a check asks for.
-/

namespace ChangeReview

namespace FileObject

/-- The content that a diff compares. -/
def content : FileObject → Bytes
  | blob content _ => content
  | link target => target.utf8
  | submodule commit => Text.utf8 (Text.concat ["Subproject commit ", commit, "\n"])

/-- Whether two objects are of one kind, so that one can be edited to become the other. -/
def sameKind : FileObject → FileObject → Bool
  | blob .., blob .. => true
  | link _, link _ => true
  | submodule _, submodule _ => true
  | _, _ => false

/-- How many bytes of a content are searched for a zero. -/
def binaryWindow : Nat := 8000

/-- Whether a content is not shown line by line. -/
def isBinary (content : Bytes) : Bool := (content.take binaryWindow).contains 0

/-- The name of a file in a diff, between quotation marks if it holds special characters. -/
def quoteName (side : Char) (path : Path) : Text :=
  let name := side :: '/' :: path
  if name.any fun c => c.toNat < 0x20 || c == '\x22' || c == '\\' then JsonValue.quote name
  else name

/-- The name of one side of a diff. -/
def sideName (side : Char) (path : Path) (object : Option FileObject) : Text :=
  if object.isSome then quoteName side path else "/dev/null"

/-- The diff of a path between two objects of one kind, one of which may be absent. If `hidden` is
given, it decides whether the contents are shown. -/
def contentDiff (path : Path) (hidden : Option Bool) (old new : Option FileObject) : Text :=
  let before := (old.map content).getD []
  let after := (new.map content).getD []
  let title := Text.concat ["diff --git ", quoteName 'a' path, " ", quoteName 'b' path]
  let oldName := sideName 'a' path old
  let newName := sideName 'b' path new
  if before == after then Text.unlines [title]
  else if hidden.getD (isBinary before || isBinary after) then
    Text.unlines
      [title, Text.concat ["Binary files ", oldName, " and ", newName, " differ"]]
  else
    Edit.unified [title, "--- " ++ oldName, "+++ " ++ newName] (Edit.ofContents before after)

/-- The diff of a path between two objects, each of which may be absent. A file whose kind changes
is deleted and created. -/
def diff (path : Path) (hidden : Option Bool) (old new : Option FileObject) : Text :=
  match old, new with
  | none, none => []
  | some a, some b =>
    if sameKind a b then if a.content == b.content then [] else contentDiff path hidden old new
    else contentDiff path hidden old none ++ contentDiff path hidden none new
  | _, _ => contentDiff path hidden old new

end FileObject

/-- A repository with its directory. -/
structure Checkout where
  /-- The names that lead to the directory. -/
  place : List Text
  repository : Repository
  /-- Whether the directory holds the repository alone, without files. -/
  isBare : Bool := false

namespace Checkout

/-- The files below the directory of the repository. -/
def ownFiles (checkout : Checkout) (root : Tree FileNode) : Tree FileNode :=
  (root.find? checkout.place).getD .empty

/-- What stands at a path of the index, as the files are now. -/
def current? (checkout : Checkout) (files : Tree FileNode) (names : List Text) :
    Option FileObject :=
  match checkout.repository.index.leaf? names with
  | none => none
  | some (.submodule commit) => some (.submodule commit)
  | some _ => (files.leaf? (checkout.place ++ names)).map Snapshot.ofNode

/-- The paths of the leaves of two trees, in order. -/
def allPaths (base index : Snapshot) : List (List Text) :=
  let known := base.leaves.map (·.1)
  let added := (index.leaves.map (·.1)).filter fun names => !known.contains names
  (known ++ added).mergeSort fun a b => !(Tree.pathOf b < Tree.pathOf a)

/-- What a path was in a base, and what it is now. -/
structure Difference where
  names : List Text
  old : Option FileObject
  new : Option FileObject
  deriving DecidableEq, Repr

/-- The end of a rename that a difference may be: a file that was deleted or created. -/
def Difference.end? (difference : Difference) : Option Rename.End :=
  match difference.old, difference.new with
  | some old, none => some ⟨difference.names, old⟩
  | none, some new => some ⟨difference.names, new⟩
  | _, _ => none

/-- The diff of one path, given the renames. A deleted file that was renamed shows nothing. -/
def showDifference (files : Tree FileNode) (renames : List Rename.Pair) (difference : Difference) :
    Text :=
  let path := Tree.pathOf difference.names
  let hidden := (PathRule.showsText? files difference.names).map (!·)
  match difference.old, difference.new with
  | some _, none =>
    if renames.any (·.old.names == difference.names) then []
    else FileObject.diff path hidden difference.old none
  | none, some new =>
    match renames.find? (·.new.names == difference.names) with
    | some pair => FileObject.diff path hidden (some pair.old.object) (some new)
    | none => FileObject.diff path hidden none (some new)
  | old, new => FileObject.diff path hidden old new

/-- What the paths that a pattern selects were in a base, and what they are now. -/
def differences (checkout : Checkout) (files : Tree FileNode) (base : Snapshot) (spec : Pathspec) :
    List Difference :=
  let paths := allPaths base checkout.repository.index
  (paths.filter fun names => spec.selects (Tree.pathOf names)).map fun names =>
    ⟨names, base.leaf? names, checkout.current? files names⟩

/-- The diff from a base to the files, of all paths that a pattern selects. -/
def diffFrom (checkout : Checkout) (files : Tree FileNode) (base : Snapshot) (spec : Pathspec) :
    Text :=
  let differences := checkout.differences files base spec
  let renames :=
    Rename.detect (fun content => !FileObject.isBinary content)
      ((differences.filter (·.new.isNone)).filterMap (·.end?))
      ((differences.filter (·.old.isNone)).filterMap (·.end?))
  differences.flatMap (showDifference (checkout.ownFiles files) renames)

/-- The diff from a reference to the files, of all paths that a path selects as a pattern. -/
def diff (checkout : Checkout) (files : Tree FileNode) (path : Path) (base : Text) :
    Except Failure Text := do
  let tree ← checkout.repository.treeOf base
  match Pathspec.parse? path with
  | none =>
    .error (.repository (Text.concat
      ["git diff failed for ", path, ": unknown options in a path pattern"]))
  | some spec => .ok (checkout.diffFrom files tree spec)

/-- The files that changed since a reference. -/
def changedFiles (checkout : Checkout) (base : Text) : Except Failure (List Path) := do
  let tree ← checkout.repository.treeOf base
  let head ← checkout.repository.treeOf Repository.headName
  .ok (Snapshot.changedFiles tree head)

/-- What is known about the change since a reference. -/
def changes (checkout : Checkout) (files : Tree FileNode) : ChangeSource :=
  { changedFiles := checkout.changedFiles
    diff := checkout.diff files }

/-- The innermost repository around a place. -/
def around? (checkouts : List Checkout) (place : List Text) : Option Checkout :=
  (checkouts.filter fun checkout => checkout.place.isPrefixOf place).foldl
    (fun found checkout =>
      match found with
      | some inner => if inner.place.length < checkout.place.length then some checkout else found
      | none => some checkout)
    none

end Checkout

end ChangeReview
