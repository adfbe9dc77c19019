import ChangeReview.Repository.HistoryStep

/-!
# Joining histories

Two commits are joined by a commit that has both as parents. Its tree takes over what changed on
either side since the latest commit that they have in common.

## Main definitions

- `Snapshot.merge?`: the tree with the changes of two sides.
- `Repository.ancestry`, `Repository.sharedTree`: what two commits have in common.
- `Repository.joinMessage`: what is said about the new commit.
-/

namespace ChangeReview

namespace Snapshot

/-- What a path becomes if two sides changed it, unless both changed it in different ways. The
outer option tells whether there is an answer. -/
def mergeObject? (base own other : Option FileObject) : Option (Option FileObject) :=
  if other == base || own == other then some own
  else if own == base then some other
  else none

/-- The tree with the changes of two sides. -/
def merge? (base own other : Snapshot) : Option Snapshot := do
  let known := own.leaves.map (·.1)
  let paths := known ++ ((other.leaves.map (·.1)).filter fun names => !known.contains names)
  let merged ← paths.mapM fun names => do
    let object ← mergeObject? (base.leaf? names) (own.leaf? names) (other.leaf? names)
    some (object.map fun object => (names, object))
  some (Tree.ofLeaves (merged.filterMap id))

end Snapshot

namespace Repository

/-- A commit with all its ancestors. They came before it, so that one pass over the earlier commits
finds them. -/
def ancestry (repository : Repository) (id : CommitId) : List CommitId :=
  (List.range (id + 1)).reverse.foldl
    (fun reached earlier =>
      if reached.contains earlier then
        reached ++ ((repository.commit? earlier).map (·.parents)).getD []
      else reached)
    [id]

/-- Whether a commit is another one or an ancestor of it. -/
def isAncestor (repository : Repository) (old id : CommitId) : Bool :=
  (repository.ancestry id).contains old

/-- The tree of the latest commit that two commits have in common. -/
def sharedTree (repository : Repository) (a b : CommitId) : Snapshot :=
  let shared := (repository.ancestry b).filter (repository.ancestry a).contains
  ((shared.max?.bind repository.commit?).map (·.tree)).getD .empty

/-- What is said about a commit that joins another one. -/
def joinMessage (repository : Repository) (target : Text) : Text :=
  let isNamed (reference : Text) : Bool := (repository.references.lookup reference).isSome
  let kind : Text :=
    if isNamed (HistoryStep.tagReference target) then "tag"
    else if isNamed (HistoryStep.branchReference target) then "branch"
    else "commit"
  let into : Text :=
    match repository.head with
    | .commit _ => " into HEAD"
    | .branch reference =>
      let name := reference.drop (HistoryStep.branchReference []).length
      if name == "main".toList || name == "master".toList then [] else " into " ++ name
  Text.concat ["Merge ", kind, " '", target, "'", into, "\n"]

end Repository

end ChangeReview
