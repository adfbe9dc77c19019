import ChangeReview.Repository.Comparison
import ChangeReview.Repository.Merge
import ChangeReview.Repository.PathRule
import ChangeReview.Workspace

/-!
# Files with repositories among them

A site holds files and the repositories whose directories are among them. It changes by steps of
their histories, and by writing and removing files.

## Main definitions

- `Site`: files with the repositories among them.
- `Site.perform`: the effect of a step.
- `Site.worktree`: the repository around a place.
-/

namespace ChangeReview

/-- Files with the repositories among them. -/
structure Site where
  files : FileSystem
  checkouts : List Checkout

namespace Checkout

/-- The names that lead from the root to a path of the repository. -/
def namesOf (path : Path) : List Text :=
  (Text.splitOnChar '/' path).filter (!Path.isSkipped ·)

/-- The files after another tree takes the place of the index. Unless it is forced, only what
differs between the two is written. -/
def populate (checkout : Checkout) (forced : Bool) (target : Snapshot) (root : Tree FileNode) :
    Tree FileNode :=
  let index := checkout.repository.index
  let gone := index.leaves.filter fun (names, _) => (target.leaf? names).isNone
  let fresh := target.leaves.filter fun (names, object) =>
    forced || index.leaf? names != some object
  let cleared := gone.foldl (fun root (names, _) => root.prune (checkout.place ++ names)) root
  fresh.foldl
    (fun root (names, object) =>
      match Snapshot.node? object with
      | some node => Tree.insert (.leaf node) (checkout.place ++ names) root
      | none => root)
    cleared

end Checkout

namespace Repository

/-- The commit of a branch under another name. -/
def renameBranch (repository : Repository) (old new : Text) : Repository :=
  let references :=
    match repository.references.lookup old with
    | none => repository.references
    | some id => setReference new id (repository.references.filter (·.1 != old))
  let head := if repository.head == .branch old then .branch new else repository.head
  { repository with references, head }

/-- The repository where the object under a path of the index is changed. -/
def mapObject (repository : Repository) (names : List Text) (change : FileObject → FileObject) :
    Repository :=
  match repository.index.leaf? names with
  | none => repository
  | some object =>
    { repository with index := Tree.insert (.leaf (change object)) names repository.index }

/-- An object that is executable or not. -/
def withMode (executable : Bool) : FileObject → FileObject
  | .blob content _ => .blob content executable
  | other => other

end Repository

namespace Site

/-- The commit that a text stands for, with its tree. -/
def commitOf? (repository : Repository) (target : Text) : Option (CommitId × Snapshot) := do
  let id ← (repository.resolve target).toOption
  let commit ← repository.commit? id
  some (id, commit.tree)

/-- The files and the repository after a commit is checked out. -/
def move (root : Tree FileNode) (checkout : Checkout) (forced : Bool) (head : Head)
    (tree : Snapshot) : Tree FileNode × Repository :=
  (checkout.populate forced tree root, { checkout.repository with head, index := tree })

/-- The index with the files at and below a path as they are. -/
def stageAt (files : Tree FileNode) (index : Snapshot) (path : Path) : Snapshot :=
  let names := Checkout.namesOf path
  let staged := ((files.find? names).map Snapshot.ofFiles).getD .empty
  staged.leaves.foldl
    (fun index (below, object) => Tree.insert (.leaf object) (names ++ below) index)
    (index.prune names)

/-- The index with all files as they are, except those that are kept out of it. -/
def stageAll (files : Tree FileNode) (index : Snapshot) : Snapshot :=
  let staged := (Snapshot.ofFiles files).leaves.filter fun (names, _) =>
    (index.leaf? names).isSome || !PathRule.isIgnored files names
  Tree.ofLeaves staged

/-- The index with the files that it knows as they are. -/
def stageKnown (files : Tree FileNode) (index : Snapshot) : Snapshot :=
  index.leaves.foldl
    (fun index (names, object) =>
      match object, files.leaf? names with
      | .submodule _, _ => index
      | _, none => index.prune names
      | _, some node => Tree.insert (.leaf (Snapshot.ofNode node)) names index)
    index

/-- The commit that a step which records the index makes, unless it changes nothing. -/
def record? (repository : Repository) (evenUnchanged : Bool) (message : Text) :
    Option Repository :=
  let isUnchanged := repository.index.leaves == repository.headTree.leaves
  if (isUnchanged && !evenUnchanged) || message.isEmpty then none
  else some (repository.addCommit repository.index [] message)

/-- The files and the repository after paths become what they are in a tree. -/
def restore (root : Tree FileNode) (checkout : Checkout) (source : Snapshot) (paths : List Path) :
    Tree FileNode × Repository :=
  let isChosen (names : List Text) : Bool :=
    paths.any fun path => Pathspec.spells (Tree.pathOf (Checkout.namesOf path)) (Tree.pathOf names)
  let chosen := source.leaves.filter fun (names, _) => isChosen names
  let index := chosen.foldl
    (fun index (names, object) => Tree.insert (.leaf object) names index)
    checkout.repository.index
  let root := chosen.foldl
    (fun root (names, object) =>
      match Snapshot.node? object with
      | some node => Tree.insert (.leaf node) (checkout.place ++ names) root
      | none => root)
    root
  (root, { checkout.repository with index })

/-- The tree with what one path leads to under another one. -/
def moveEntry {α : Type} (source target : List Text) (tree : Tree α) : Tree α :=
  match tree.find? source with
  | none => tree
  | some moved => Tree.insert moved target (tree.prune source)

/-- The files and the repository after a file or directory gets another path. In the place of a
directory the new path is one inside it. -/
def moveFile (checkout : Checkout) (target : Path) (state : Tree FileNode × Snapshot)
    (source : Path) : Tree FileNode × Snapshot :=
  let (root, index) := state
  let source := Checkout.namesOf source
  let target := Checkout.namesOf target
  let isDirectory := ((root.find? (checkout.place ++ target)).map (·.isDirectory)).getD false
  let target := if isDirectory then target ++ source.getLast?.toList else target
  (moveEntry (checkout.place ++ source) (checkout.place ++ target) root,
    moveEntry source target index)

/-- The files and the repository after a step, unless it names no commit. -/
def step? (root : Tree FileNode) (checkout : Checkout) :
    HistoryStep → Option (Tree FileNode × Repository)
  | .stageAll =>
    let index := stageAll (checkout.ownFiles root) checkout.repository.index
    some (root, { checkout.repository with index })
  | .stage paths =>
    let index := paths.foldl (stageAt (checkout.ownFiles root)) checkout.repository.index
    some (root, { checkout.repository with index })
  | .record evenUnchanged stagesKnown message =>
    let index :=
      if stagesKnown then stageKnown (checkout.ownFiles root) checkout.repository.index
      else checkout.repository.index
    (record? { checkout.repository with index } evenUnchanged message).map (root, ·)
  | .branch name start checkOut => do
    let reference := HistoryStep.branchReference name
    match commitOf? checkout.repository start with
    | none =>
      if checkOut then some (root, { checkout.repository with head := .branch reference }) else none
    | some (id, tree) =>
      let references := Repository.setReference reference id checkout.repository.references
      let named := { checkout with repository := { checkout.repository with references } }
      if checkOut then some (move root named false (.branch reference) tree)
      else some (root, named.repository)
  | .unbornBranch name =>
    let head := Head.branch (HistoryStep.branchReference name)
    some (root, { checkout.repository with head })
  | .renameBranch old new => do
    let old ←
      match old, checkout.repository.head with
      | some name, _ => some (HistoryStep.branchReference name)
      | none, .branch reference => some reference
      | none, .commit _ => none
    some (root, checkout.repository.renameBranch old (HistoryStep.branchReference new))
  | .checkOut target detached forced => do
    let (id, tree) ← commitOf? checkout.repository target
    let reference := HistoryStep.branchReference target
    let isBranch := (checkout.repository.references.lookup reference).isSome
    let head :=
      if target == Repository.headName && !detached then checkout.repository.head
      else if isBranch && !detached then .branch reference
      else .commit id
    some (move root checkout forced head tree)
  | .restore none paths => some (restore root checkout checkout.repository.index paths)
  | .restore (some target) paths => do
    let (_, tree) ← commitOf? checkout.repository target
    some (restore root checkout tree paths)
  | .refer reference target => do
    let (id, _) ← commitOf? checkout.repository target
    let references := Repository.setReference reference id checkout.repository.references
    some (root, { checkout.repository with references })
  | .forget names =>
    let references := checkout.repository.references.filter (!names.contains ·.1)
    some (root, { checkout.repository with references })
  | .setExecutable path executable =>
    some (root,
      checkout.repository.mapObject (Checkout.namesOf path) (Repository.withMode executable))
  | .join target keepsFiles mayAdvance message => do
    let (id, tree) ← commitOf? checkout.repository target
    let own ← checkout.repository.headId?
    if checkout.repository.isAncestor id own then some (root, checkout.repository)
    else if mayAdvance && checkout.repository.isAncestor own id then
      let (root, repository) := move root checkout false checkout.repository.head tree
      some (root, repository.moveHead id)
    else
      let ownTree := checkout.repository.headTree
      let merged ←
        if keepsFiles then some ownTree
        else Snapshot.merge? (checkout.repository.sharedTree own id) ownTree tree
      let (root, repository) := move root checkout false checkout.repository.head merged
      let message := message.getD (checkout.repository.joinMessage target)
      some (root, repository.addCommit merged [id] message)
  | .reset target files => do
    let (id, tree) ← commitOf? checkout.repository target
    let repository := { checkout.repository with index := tree }.moveHead id
    some (if files then checkout.populate true tree root else root, repository)
  | .remove paths fromIndexOnly =>
    let names := paths.map Checkout.namesOf
    let index := names.foldl (fun tree names => tree.prune names) checkout.repository.index
    let cleared := names.foldl (fun root names => root.prune (checkout.place ++ names)) root
    some (if fromIndexOnly then root else cleared, { checkout.repository with index })
  | .move sources target =>
    let (root, index) :=
      sources.foldl (moveFile checkout target) (root, checkout.repository.index)
    some (root, { checkout.repository with index })
  | .addSubmodule path commit =>
    let index :=
      Tree.insert (.leaf (.submodule commit)) (Checkout.namesOf path) checkout.repository.index
    some (root, { checkout.repository with index })
  | .copyBare _ => none
  | .nothing => none

/-- The site after a step in the repository at a place. -/
def perform (site : Site) (place : List Text) (step : HistoryStep) : Site :=
  match site.checkouts.find? (·.place == place) with
  | none => site
  | some checkout =>
    match step with
    | .copyBare path =>
      let place := place ++ Checkout.namesOf path
      let copy : Checkout := { place, repository := checkout.repository, isBare := true }
      { files := { site.files with root := Tree.insert .empty place site.files.root }
        checkouts := copy :: site.checkouts }
    | step =>
      match step? site.files.root checkout step with
      | none => site
      | some (root, repository) =>
        { files := { site.files with root }
          checkouts :=
            site.checkouts.map fun other =>
              if other.place == place then { other with repository } else other }

/-- The site without what the names lead to. -/
def erase (site : Site) (names : List Text) : Site :=
  { site with files := { site.files with root := Tree.erase names site.files.root } }

/-- The site with a symbolic link where the names lead. -/
def putLink (site : Site) (names : List Text) (target : Path) : Site :=
  let root := Tree.insert (.leaf (.link target)) names site.files.root
  { site with files := { site.files with root } }

/-- The site with a file where the names lead, after symbolic links on the way. Directories on the
way are created. -/
def putFile (site : Site) (names : List Text) (content : Bytes) : Site :=
  let place := (site.files.placeOf true (FileSystem.absolute names)).toOption.getD names
  let root := FileSystem.writeAt place content site.files.root
  { site with files := { site.files with root } }

/-- The repository around a place, with its files. -/
def worktree (site : Site) (place : List Text) : Except Failure Worktree :=
  match Checkout.around? site.checkouts place with
  | none => .error (.repositoryNotFound ".: no repository")
  | some checkout =>
    if checkout.isBare then .error (.repository "Repository has no working directory")
    else
      .ok
        { directory := FileSystem.absolute checkout.place
          changes := checkout.changes site.files.root }

end Site

end ChangeReview
