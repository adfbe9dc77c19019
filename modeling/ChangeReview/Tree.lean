import ChangeReview.Path

/-!
# Directory trees

A tree has directories with named entries and leaves of some type. Entries stand in the order of
their names, so that a walk through the tree meets paths in their order.

## Main definitions

- `Tree`: a directory with its entries, or a leaf.
- `Tree.find?`, `Tree.insert`, `Tree.erase`, `Tree.prune`: a tree and a path of names.
- `Tree.leaves`: the leaves with the names that lead to them.
-/

namespace ChangeReview

/-- A directory with its entries, or a leaf. -/
inductive Tree (α : Type) where
  | leaf (value : α)
  | directory (entries : List (Text × Tree α))

namespace Tree

variable {α : Type}

/-- A directory without entries. -/
def empty : Tree α := directory []

/-- The entries of a directory. A leaf has none. -/
def entries : Tree α → List (Text × Tree α)
  | leaf _ => []
  | directory entries => entries

/-- The value of a leaf. -/
def value? : Tree α → Option α
  | leaf value => some value
  | directory _ => none

/-- Whether the tree is a directory. -/
def isDirectory : Tree α → Bool
  | leaf _ => false
  | directory _ => true

/-- What the names lead to. -/
def find? : List Text → Tree α → Option (Tree α)
  | [], tree => some tree
  | name :: names, tree => (tree.entries.lookup name).bind (find? names)

/-- The value of the leaf that the names lead to. -/
def leaf? (names : List Text) (tree : Tree α) : Option α := (tree.find? names).bind value?

/-- The entries with `tree` under the name, at its place in the order of names. -/
def putEntry (name : Text) (tree : Tree α) : List (Text × Tree α) → List (Text × Tree α)
  | [] => [(name, tree)]
  | (other, old) :: rest =>
    if name = other then (name, tree) :: rest
    else if name < other then (name, tree) :: (other, old) :: rest
    else (other, old) :: putEntry name tree rest

/-- The tree with `node` where the names lead. Leaves on the way become directories. -/
def insert (node : Tree α) : List Text → Tree α → Tree α
  | [], _ => node
  | name :: names, tree =>
    let inner := (tree.entries.lookup name).getD empty
    directory (putEntry name (insert node names inner) tree.entries)

/-- The tree without what the names lead to. -/
def erase : List Text → Tree α → Tree α
  | [], tree => tree
  | [name], tree => if tree.isDirectory then directory (tree.entries.filter (·.1 != name)) else tree
  | name :: names, tree =>
    match tree.entries.lookup name with
    | none => tree
    | some inner => directory (putEntry name (erase names inner) tree.entries)

/-- The tree without what the names lead to, and without the directories that become empty. -/
def prune : List Text → Tree α → Tree α
  | [], tree => tree
  | name :: names, tree =>
    match tree.entries.lookup name with
    | none => tree
    | some inner =>
      let rest := if names.isEmpty then empty else prune names inner
      if rest.isDirectory && rest.entries.isEmpty then
        directory (tree.entries.filter (·.1 != name))
      else directory (putEntry name rest tree.entries)

mutual

/-- The leaves with the names that lead to them, directory by directory. -/
def leaves : Tree α → List (List Text × α)
  | leaf value => [([], value)]
  | directory entries => entryLeaves entries

/-- The leaves at and below entries. -/
def entryLeaves : List (Text × Tree α) → List (List Text × α)
  | [] => []
  | (name, tree) :: entries =>
    (leaves tree).map (fun (names, value) => (name :: names, value)) ++ entryLeaves entries

end

/-- The tree with the given leaves. -/
def ofLeaves (leaves : List (List Text × α)) : Tree α :=
  leaves.foldl (fun tree (names, value) => insert (leaf value) names tree) empty

/-- The path of names, one below the other. -/
def pathOf (names : List Text) : Path := Text.joinWith ['/'] names

end Tree

end ChangeReview
