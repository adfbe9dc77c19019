import ChangeReview.FileSystem

/-!
# Repositories

A repository is a history of commits, each of which holds a tree of files. References name commits.
The index holds the tree of the next commit.

## Main definitions

- `FileObject`, `Snapshot`: what a commit holds.
- `Commit`, `Repository`: the history with its references.
- `Snapshot.blobs`, `Snapshot.changedFiles`: the files of a commit, and those that differ from
  another one.
- `Repository.reference?`: the commit that a name stands for.
-/

namespace ChangeReview

/-- What a commit holds under a path, other than a directory. -/
inductive FileObject where
  | blob (content : Bytes) (executable : Bool)
  | link (target : Path)
  /-- Another repository at one of its commits. -/
  | submodule (commit : Text)
  deriving DecidableEq, Repr

/-- The tree of a commit. -/
abbrev Snapshot := Tree FileObject

namespace Snapshot

/-- The content of a file. -/
def blob? : FileObject → Option Bytes
  | .blob content _ => some content
  | _ => none

/-- The files with their contents, directory by directory. -/
def blobs (snapshot : Snapshot) : List (Path × Bytes) :=
  snapshot.leaves.filterMap fun (names, object) =>
    (blob? object).map fun content => (Tree.pathOf names, content)

/-- The files of `head` that are not the same in `base`, ordered by their components. -/
def changedFiles (base head : Snapshot) : List Path :=
  let known := blobs base
  let changed := (blobs head).filter fun file => !known.contains file
  (changed.map (·.1)).mergeSort fun a b => !Path.before b a

/-- What a commit holds for a file or symbolic link. -/
def ofNode : FileNode → FileObject
  | .file content executable => .blob content executable
  | .link target => .link target

/-- The file or symbolic link that a commit holds. Another repository has none. -/
def node? : FileObject → Option FileNode
  | .blob content executable => some (.file content executable)
  | .link target => some (.link target)
  | .submodule _ => none

/-- The tree that a commit of all files holds. -/
def ofFiles (files : Tree FileNode) : Snapshot :=
  Tree.ofLeaves (files.leaves.map fun (names, node) => (names, ofNode node))

end Snapshot

/-- A number that stands for a commit of a repository. -/
abbrev CommitId := Nat

/-- A commit. -/
structure Commit where
  tree : Snapshot
  /-- The commits that it follows, the one it was made on first. -/
  parents : List CommitId
  /-- What was said about it, each line with its line end. -/
  message : Text

/-- What is checked out. -/
inductive Head where
  /-- The commit that a branch names, if it has one. -/
  | branch (reference : Text)
  | commit (id : CommitId)
  deriving DecidableEq, Repr

/-- A history of commits with its references. -/
structure Repository where
  /-- The commits, the oldest first. -/
  commits : List Commit := []
  /-- Full names of references, with the commits that they name. -/
  references : List (Text × CommitId) := []
  head : Head := .branch "refs/heads/main"
  /-- The tree of the next commit. -/
  index : Snapshot := .empty
  /-- Who makes the commits, and when. -/
  signature : Text := []

namespace Repository

/-- The commit with a number. -/
def commit? (repository : Repository) (id : CommitId) : Option Commit := repository.commits[id]?

/-- The commit that is checked out. -/
def headId? (repository : Repository) : Option CommitId :=
  match repository.head with
  | .branch reference => repository.references.lookup reference
  | .commit id => some id

/-- The name of the reference that is checked out. -/
def headName : Text := "HEAD"

/-- What may stand before a name to make it the full name of a reference. -/
def namespaces : List Text := ["", "refs/", "refs/tags/", "refs/heads/", "refs/remotes/"]

/-- The commit that a name stands for: what is checked out, or the first reference whose full name
ends with the name. -/
def reference? (repository : Repository) (name : Text) : Option CommitId :=
  if name == headName || name == ['@'] then repository.headId?
  else namespaces.findSome? fun start => repository.references.lookup (start ++ name)

/-- The tree of the commit that is checked out. -/
def headTree (repository : Repository) : Snapshot :=
  ((repository.headId?.bind repository.commit?).map (·.tree)).getD .empty

/-- The references with a new commit for a name. -/
def setReference (name : Text) (id : CommitId) (references : List (Text × CommitId)) :
    List (Text × CommitId) :=
  (name, id) :: references.filter (·.1 != name)

/-- The repository where the checked out branch names another commit. -/
def moveHead (repository : Repository) (id : CommitId) : Repository :=
  match repository.head with
  | .branch reference =>
    { repository with references := setReference reference id repository.references }
  | .commit _ => { repository with head := .commit id }

/-- The repository with a new commit on top of what is checked out and other parents. -/
def addCommit (repository : Repository) (tree : Snapshot) (others : List CommitId)
    (message : Text) : Repository :=
  let commit : Commit := { tree, parents := repository.headId?.toList ++ others, message }
  { repository with commits := repository.commits ++ [commit] }.moveHead repository.commits.length

end Repository

end ChangeReview
