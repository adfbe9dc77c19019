import ChangeReview.Proofs.Repository.ChangedFiles
import ChangeReview.Workspace

/-!
# The order in which files are visited

A directory is walked entry by entry, and the changed files of a commit are sorted as a whole. Both
orders are that of paths, component by component, so a check of a directory and a check of a change
visit the files that they share in the same order: `Workspace.isVisit_walk`.

## Main definitions

- `FileSystem.IsVisit`: the accepted files below a directory, in the strict order of their paths.
- `FileSystem.AgreesWith`: two lists that have the files they share in the same order.
-/

namespace ChangeReview

namespace FileSystem

variable {files : FileSystem} {path : Path} {tree : Tree FileNode} {accepts : Path → Bool}
  {found changed : List Path} {above : List Text}

/-- The accepted files of a tree as seen from its path, in the strict order of their paths. -/
structure IsVisit (tree : Tree FileNode) (path : Path) (accepts : Path → Bool)
    (found : List Path) : Prop where
  mem_iff : ∀ file, file ∈ found ↔ ∃ names content executable,
    tree.leaf? names = some (.file content executable) ∧ names.foldl Path.join path = file ∧
      accepts file = true
  pairwise : found.Pairwise fun a b => Path.before a b = true
  nodup : found.Nodup

/-- Of any two files below a directory, which both lists hold, the same one comes first in both. In
one list they are seen from the path of the directory, in the other from a place `above` it. -/
def AgreesWith (path : Path) (found : List Path) (above : List Text) (changed : List Path) : Prop :=
  ∀ a b : List Text, (∀ name ∈ a ++ b, Path.IsEntryName name) →
    a.foldl Path.join path ∈ found → b.foldl Path.join path ∈ found →
    Tree.pathOf (above ++ a) ∈ changed → Tree.pathOf (above ++ b) ∈ changed →
    ([a.foldl Path.join path, b.foldl Path.join path].Sublist found ↔
      [Tree.pathOf (above ++ a), Tree.pathOf (above ++ b)].Sublist changed)

theorem isFile_iff {node : FileNode} :
    isFile node = true ↔ ∃ content executable, node = .file content executable := by
  cases node <;> simp [isFile]

theorem mem_walk_iff (h : files.locate path = .ok tree) (htree : tree.IsWellNamed) {file : Path} :
    file ∈ files.walk path ↔ ∃ names content executable,
      tree.leaf? names = some (.file content executable) ∧ names.foldl Path.join path = file := by
  rw [walk, h]
  simp only [List.mem_map, List.mem_filter, isFile_iff]
  constructor
  · rintro ⟨⟨names, _⟩, ⟨hleaf, content, executable, rfl⟩, hfile⟩
    exact ⟨names, content, executable, htree.mem_leaves_iff.mp hleaf, hfile⟩
  · rintro ⟨names, content, executable, hleaf, hfile⟩
    exact ⟨_, ⟨htree.mem_leaves_iff.mpr hleaf, content, executable, rfl⟩, hfile⟩

/-- A walk through a tree in order meets the files in the order of their paths. -/
theorem pairwise_walk (h : files.locate path = .ok tree) (htree : tree.IsOrdered) :
    (files.walk path).Pairwise fun a b => Path.before a b = true := by
  rw [walk, h]
  refine List.pairwise_map.mpr (List.Pairwise.filter _ ?_)
  refine (List.pairwise_map.mp htree.pairwise_leaves).imp_of_mem fun {a b} ha hb hlt => ?_
  exact (Path.before_foldl_join_iff (htree.isWellNamed.isEntryName ha)
    (htree.isWellNamed.isEntryName hb)).mpr hlt

theorem isVisit_filter_walk (h : files.locate path = .ok tree) (htree : tree.IsOrdered) :
    IsVisit tree path accepts ((files.walk path).filter accepts) where
  mem_iff file := by
    rw [List.mem_filter, mem_walk_iff h htree.isWellNamed]
    simp only [exists_and_right, ← and_assoc]
  pairwise := (pairwise_walk h htree).filter _
  nodup := Path.nodup_of_pairwise_before ((pairwise_walk h htree).filter _)

/-- Lists in the order of their paths have the files that they share in the same order. -/
theorem agreesWith_of_pairwise (hfound : found.Pairwise fun a b => Path.before a b = true)
    (hchanged : changed.Pairwise fun a b => Path.before a b = true)
    (habove : ∀ name ∈ above, Path.IsEntryName name) : AgreesWith path found above changed := by
  intro a b hnames ha hb haChanged hbChanged
  obtain ⟨hnamesA, hnamesB⟩ := List.forall_mem_append.mp hnames
  rw [Path.pair_sublist_iff hfound, Path.pair_sublist_iff hchanged,
    Path.before_foldl_join_iff hnamesA hnamesB,
    Path.before_pathOf_iff (List.forall_mem_append.mpr ⟨habove, hnamesA⟩)
      (List.forall_mem_append.mpr ⟨habove, hnamesB⟩), Text.append_lt_append_iff]
  simp [ha, hb, haChanged, hbChanged]

end FileSystem

namespace Workspace

variable {files : FileSystem} {path : Path} {tree : Tree FileNode}

theorem source_wholeTargets (filter : FileFilter) (h : files.isDirectory path = true) :
    (wholeTargets files filter [path]).map (·.source) =
      (files.walk path).filter fun file => (filter.classify file).isSome := by
  rw [wholeTargets, List.map_map, List.flatMap_singleton, if_pos h]
  exact List.map_id _

/-- A check of a directory visits exactly the files below it that its filter accepts, each once and
in the order of their paths, which is the order of the changed files. -/
theorem isVisit_walk (hlocate : files.locate path = .ok tree) (hdirectory : tree.isDirectory = true)
    (htree : tree.IsOrdered) :
    (∀ accepts : Path → Bool,
      FileSystem.IsVisit tree path accepts ((files.walk path).filter accepts) ∧
        ∀ (base head : Snapshot) (above : List Text), head.IsWellNamed →
          (∀ name ∈ above, Path.IsEntryName name) →
          FileSystem.AgreesWith path ((files.walk path).filter accepts) above
            (Snapshot.changedFiles base head)) ∧
      ∀ filter : FileFilter, (wholeTargets files filter [path]).map (·.source) =
        (files.walk path).filter fun file => (filter.classify file).isSome := by
  constructor
  · intro accepts
    have hvisit : FileSystem.IsVisit tree path accepts ((files.walk path).filter accepts) :=
      FileSystem.isVisit_filter_walk hlocate htree
    refine ⟨hvisit, fun base head above hhead habove => ?_⟩
    exact FileSystem.agreesWith_of_pairwise hvisit.pairwise (Snapshot.pairwise_changedFiles hhead)
      habove
  · intro filter
    refine source_wholeTargets filter ?_
    rw [FileSystem.isDirectory, hlocate]
    exact hdirectory

/-- A directory whose name begins the names of what stands beside it. -/
def sources : Tree FileNode :=
  .ofLeaves
    [(["a.ts"], .file [] false), (["a-b", "c.ts"], .file [] false), (["a", "z.ts"], .file [] false)]

/-- The files of a repository, seen from its directory. -/
def project : FileSystem where
  root := .directory [("src", sources)]
  current := []

/-- What stands in a directory comes before the names that only begin like it, on a walk as in the
first commit of the files. -/
theorem isVisit_walk_sources :
    ∃ found : List Path,
      found = ["src/a/z.ts".toList, "src/a-b/c.ts".toList, "src/a.ts".toList] ∧
      FileSystem.IsVisit sources "src" (fun _ => true) found ∧
      FileSystem.AgreesWith "src" found ["src"]
        (Snapshot.changedFiles .empty (Snapshot.ofFiles project.root)) ∧
      Snapshot.changedFiles .empty (Snapshot.ofFiles project.root) = found := by
  have hplace : project.placeOf false "src" = .ok ["src"] := by
    show FileSystem.follow project.root false FileSystem.maxLinks [] ["src"] = .ok ["src"]
    simp only [FileSystem.follow]
    rfl
  have hlocate : project.locate "src" = .ok sources := by
    rw [FileSystem.locate, hplace]
    rfl
  have hwalk : (project.walk "src").filter (fun _ => true) =
      ["src/a/z.ts".toList, "src/a-b/c.ts".toList, "src/a.ts".toList] := by
    rw [FileSystem.walk, hlocate]
    rfl
  have hsources : sources.IsOrdered := Tree.isOrdered_ofLeaves (by decide)
  have hfirst : (Snapshot.ofFiles project.root).IsWellNamed :=
    (Tree.isOrdered_ofLeaves (by decide)).isWellNamed
  obtain ⟨hvisit, hagrees⟩ := (isVisit_walk hlocate rfl hsources).1 fun _ => true
  refine ⟨_, hwalk, hvisit, hagrees .empty _ ["src"] hfirst (by decide), ?_⟩
  rw [hwalk]
  exact Path.mergeSort_eq (by decide) (by decide)

end Workspace

end ChangeReview
