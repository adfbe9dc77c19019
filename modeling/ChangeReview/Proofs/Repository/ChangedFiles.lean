import ChangeReview.Proofs.Tree.Leaves
import ChangeReview.Repository.Comparison

/-!
# The changed files

A file changed if the base has no file of the same object name under its path. Contents take the
place of object names where a database answers for each name with the content it was made of
(`Snapshot.IsReadBy`). The changed files of two commits are then listed exactly and in the strict
order of their paths: `Snapshot.listsChanges_changedFiles`.

## Main definitions

- `Snapshot.IsChanged`: a file of one commit that is not the same in another.
- `Snapshot.ListsChanges`: what a list of the changed files is.
-/

namespace ChangeReview.Snapshot

variable {base head snapshot : Snapshot} {names : List Text} {path file : Path} {content : Bytes}
  {read : Bytes → Option Bytes}

/-- A database has the content of each file under its object name. -/
def IsReadBy (read : Bytes → Option Bytes) (snapshot : Snapshot) : Prop :=
  ∀ file ∈ snapshot.blobs, ∀ executable,
    read (FileObject.blob file.2 executable).objectName = some file.2

/-- The names lead to a file of `head`, and in `base` to no file of the same object name. -/
def IsChanged (base head : Snapshot) (names : List Text) : Prop :=
  ∃ content executable, head.leaf? names = some (.blob content executable) ∧
    ∀ other executable', base.leaf? names = some (.blob other executable') →
      (FileObject.blob other executable').objectName ≠
        (FileObject.blob content executable).objectName

/-- The changed files of `head`, in the strict order of their paths. -/
structure ListsChanges (base head : Snapshot) (files : List Path) : Prop where
  mem_iff : ∀ file, file ∈ files ↔ ∃ names, IsChanged base head names ∧ Tree.pathOf names = file
  pairwise : files.Pairwise fun a b => Path.before a b = true
  nodup : files.Nodup
  /-- Nothing is listed where `head` has no file, but at most a link, a submodule or a directory. -/
  notMem_of_noFile : ∀ names, (∀ name ∈ names, Path.IsEntryName name) →
    (∀ content executable, head.leaf? names ≠ some (.blob content executable)) →
    Tree.pathOf names ∉ files
  /-- A file that only became executable or ceased to be is not listed. -/
  notMem_of_sameContent : ∀ names content executable executable',
    base.leaf? names = some (.blob content executable) →
    head.leaf? names = some (.blob content executable') → Tree.pathOf names ∉ files
  /-- A file is listed where `base` has none, whatever stands there instead. -/
  mem_of_noFile : ∀ names content executable, head.leaf? names = some (.blob content executable) →
    (∀ other executable', base.leaf? names ≠ some (.blob other executable')) →
    Tree.pathOf names ∈ files

/-! ## Files and their paths -/

theorem blob?_eq_some_iff {object : FileObject} :
    blob? object = some content ↔ ∃ executable, object = .blob content executable := by
  cases object <;> simp [blob?]

theorem isEntryName_of_leaf? {object : FileObject} (h : snapshot.IsWellNamed)
    (hleaf : snapshot.leaf? names = some object) : ∀ name ∈ names, Path.IsEntryName name :=
  h.isEntryName (h.mem_leaves_iff.mpr hleaf)

theorem mem_blobs_iff (h : snapshot.IsWellNamed) :
    (path, content) ∈ snapshot.blobs ↔
      ∃ names executable, snapshot.leaf? names = some (.blob content executable) ∧
        Tree.pathOf names = path := by
  simp only [blobs, List.mem_filterMap, Option.map_eq_some_iff, blob?_eq_some_iff, Prod.mk.injEq]
  constructor
  · rintro ⟨⟨names, object⟩, hleaf, _, ⟨executable, rfl⟩, rfl, rfl⟩
    exact ⟨names, executable, h.mem_leaves_iff.mp hleaf, rfl⟩
  · rintro ⟨names, executable, hleaf, rfl⟩
    exact ⟨_, h.mem_leaves_iff.mpr hleaf, content, ⟨executable, rfl⟩, rfl, rfl⟩

/-- Only one list of names stands behind a path. -/
theorem mem_blobs_pathOf_iff (h : snapshot.IsWellNamed)
    (hnames : ∀ name ∈ names, Path.IsEntryName name) :
    (Tree.pathOf names, content) ∈ snapshot.blobs ↔
      ∃ executable, snapshot.leaf? names = some (.blob content executable) := by
  rw [mem_blobs_iff h]
  constructor
  · rintro ⟨others, executable, hleaf, hpath⟩
    obtain rfl := Path.pathOf_injective (isEntryName_of_leaf? h hleaf) hnames hpath
    exact ⟨executable, hleaf⟩
  · rintro ⟨executable, hleaf⟩
    exact ⟨names, executable, hleaf, rfl⟩

theorem nodup_sortKey_blobs (h : snapshot.IsWellNamed) :
    (snapshot.blobs.map fun file => Path.sortKey file.1).Nodup := by
  refine List.pairwise_map.mpr (List.pairwise_filterMap.mpr ?_)
  refine (List.pairwise_map.mp h.nodup_leaves).imp_of_mem fun {a b} ha hb hne => ?_
  rintro _ hfile _ hother hkey
  obtain ⟨_, _, rfl⟩ := Option.map_eq_some_iff.mp hfile
  obtain ⟨_, _, rfl⟩ := Option.map_eq_some_iff.mp hother
  rw [Path.sortKey_pathOf (h.isEntryName ha), Path.sortKey_pathOf (h.isEntryName hb)] at hkey
  exact hne (Path.nameKey_injective.list_map hkey)

/-! ## The list -/

theorem mem_changedFiles :
    file ∈ changedFiles base head ↔
      ∃ content, (file, content) ∈ head.blobs ∧ (file, content) ∉ base.blobs := by
  rw [changedFiles, List.mem_mergeSort]
  simp [List.mem_filter]

theorem pairwise_changedFiles (h : head.IsWellNamed) :
    (changedFiles base head).Pairwise fun a b => Path.before a b = true := by
  refine Path.pairwise_mergeSort ?_
  rw [List.map_map]
  exact (nodup_sortKey_blobs h).sublist (List.filter_sublist.map _)

/-- Files of two commits have the same content exactly if they have the same object name. -/
theorem objectName_eq_iff {other : Bytes} {executable executable' : Bool}
    (hbase : base.IsReadBy read) (hhead : head.IsReadBy read) (hother : (path, other) ∈ base.blobs)
    (hcontent : (path, content) ∈ head.blobs) :
    (FileObject.blob other executable').objectName =
      (FileObject.blob content executable).objectName ↔ other = content := by
  constructor
  · intro hname
    have hread := hbase _ hother executable'
    rw [hname, hhead _ hcontent executable] at hread
    exact (Option.some.inj hread).symm
  · rintro rfl
    rfl

section

variable (hbase : base.IsWellNamed) (hhead : head.IsWellNamed) (hbaseRead : base.IsReadBy read)
  (hheadRead : head.IsReadBy read)

include hbase hhead hbaseRead hheadRead

theorem mem_changedFiles_iff :
    file ∈ changedFiles base head ↔
      ∃ names, IsChanged base head names ∧ Tree.pathOf names = file := by
  rw [mem_changedFiles]
  constructor
  · rintro ⟨content, hmem, hnot⟩
    obtain ⟨names, executable, hleaf, rfl⟩ := (mem_blobs_iff hhead).mp hmem
    refine ⟨names, ⟨content, executable, hleaf, fun other executable' hother hname => hnot ?_⟩, rfl⟩
    have hblob : (Tree.pathOf names, other) ∈ base.blobs :=
      (mem_blobs_iff hbase).mpr ⟨names, executable', hother, rfl⟩
    rwa [(objectName_eq_iff hbaseRead hheadRead hblob hmem).mp hname] at hblob
  · rintro ⟨names, ⟨content, executable, hleaf, hchanged⟩, rfl⟩
    refine ⟨content, (mem_blobs_iff hhead).mpr ⟨names, executable, hleaf, rfl⟩, fun hmem => ?_⟩
    obtain ⟨executable', hother⟩ :=
      (mem_blobs_pathOf_iff hbase (isEntryName_of_leaf? hhead hleaf)).mp hmem
    exact hchanged content executable' hother rfl

theorem pathOf_mem_changedFiles_iff (hnames : ∀ name ∈ names, Path.IsEntryName name) :
    Tree.pathOf names ∈ changedFiles base head ↔ IsChanged base head names := by
  rw [mem_changedFiles_iff hbase hhead hbaseRead hheadRead]
  constructor
  · rintro ⟨others, hchanged, hpath⟩
    obtain ⟨content, executable, hleaf, _⟩ := id hchanged
    rwa [Path.pathOf_injective (isEntryName_of_leaf? hhead hleaf) hnames hpath] at hchanged
  · exact fun hchanged => ⟨names, hchanged, rfl⟩

end

/-- The changed files of two commits are listed exactly, each once and in the order of their paths,
also when they are asked for by the name of the base. -/
theorem listsChanges_changedFiles (hbase : base.IsWellNamed) (hhead : head.IsWellNamed)
    (hbaseRead : base.IsReadBy read) (hheadRead : head.IsReadBy read) :
    ListsChanges base head (changedFiles base head) ∧
      ∀ (checkout : Checkout) (reference : Text),
        checkout.repository.treeOf reference = .ok base →
        checkout.repository.treeOf Repository.headName = .ok head →
        checkout.changedFiles reference = .ok (changedFiles base head) := by
  have hmem {names : List Text} (hnames : ∀ name ∈ names, Path.IsEntryName name) :=
    pathOf_mem_changedFiles_iff hbase hhead hbaseRead hheadRead hnames
  constructor
  · exact
      { mem_iff := fun file => mem_changedFiles_iff hbase hhead hbaseRead hheadRead
        pairwise := pairwise_changedFiles hhead
        nodup := Path.nodup_of_pairwise_before (pairwise_changedFiles hhead)
        notMem_of_noFile := by
          intro names hnames hnone hlisted
          obtain ⟨content, executable, hleaf, _⟩ := (hmem hnames).mp hlisted
          exact hnone content executable hleaf
        notMem_of_sameContent := by
          intro names content executable executable' hold hnew hlisted
          obtain ⟨_, _, hleaf, hchanged⟩ := (hmem (isEntryName_of_leaf? hhead hnew)).mp hlisted
          rw [hnew] at hleaf
          obtain ⟨rfl, rfl⟩ := FileObject.blob.inj (Option.some.inj hleaf)
          exact hchanged content executable hold rfl
        mem_of_noFile := by
          intro names content executable hleaf hnone
          exact (hmem (isEntryName_of_leaf? hhead hleaf)).mpr
            ⟨content, executable, hleaf, fun other executable' hother =>
              absurd hother (hnone other executable')⟩ }
  · intro checkout reference hbaseTree hheadTree
    rw [Checkout.changedFiles, hbaseTree, hheadTree]
    rfl

/-- A commit with files, a link and directories. -/
def original : Snapshot :=
  .ofLeaves
    [(["a", "b"], .blob [1] false), (["gone.ts"], .blob [1] false), (["lib"], .link "a"),
      (["run.ts"], .blob [2] false), (["web", "x.ts"], .blob [1] false)]

/-- Files take the place of the link and of a directory, and one becomes executable. -/
def revised : Snapshot :=
  .ofLeaves
    [(["a", "b"], .blob [2] false), (["a.b"], .blob [1] false), (["lib"], .blob [1] false),
      (["link"], .link "a"), (["run.ts"], .blob [2] true), (["web"], .blob [2] false)]

/-- The contents of both commits by their object names. -/
def contentOf (name : Bytes) : Option Bytes :=
  [[1], [2]].find? fun content => (FileObject.blob content false).objectName == name

theorem isReadBy_contentOf (h : ∀ file ∈ snapshot.blobs, file.2 ∈ [[1], [2]]) :
    snapshot.IsReadBy contentOf := by
  have hnames : ∀ content ∈ [[1], [2]], ∀ executable,
      contentOf (FileObject.blob content executable).objectName = some content := by decide +kernel
  exact fun file hfile => hnames file.2 (h file hfile)

/-- A repository with one commit on top of the other. -/
def twoCommits : Checkout where
  place := []
  repository :=
    { commits := [⟨original, [], []⟩, ⟨revised, [0], []⟩]
      references := [("refs/heads/main", 1)] }

/-- The path below a directory comes before the name that begins like it. -/
theorem listsChanges_changedFiles_twoCommits :
    ∃ files : List Path, files = ["a/b".toList, "a.b".toList, "lib".toList, "web".toList] ∧
      ListsChanges original revised files ∧ twoCommits.changedFiles "HEAD~1" = .ok files := by
  have horiginal : original.IsWellNamed := (Tree.isOrdered_ofLeaves (by decide)).isWellNamed
  have hrevised : revised.IsWellNamed := (Tree.isOrdered_ofLeaves (by decide)).isWellNamed
  obtain ⟨hlists, hasked⟩ := listsChanges_changedFiles horiginal hrevised
    (isReadBy_contentOf (by decide)) (isReadBy_contentOf (by decide))
  have hfiles : changedFiles original revised =
      ["a/b".toList, "a.b".toList, "lib".toList, "web".toList] :=
    Path.mergeSort_eq (by decide) (by decide)
  exact ⟨changedFiles original revised, hfiles, hlists, hasked twoCommits "HEAD~1" rfl rfl⟩

end ChangeReview.Snapshot
