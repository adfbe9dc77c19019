import ChangeReview.Proofs.Path.Order

/-!
# The leaves of a tree

The leaves that are listed are those that names lead to, if no name stands twice in a directory
(`Tree.mem_leaves_iff`). Where entries stand in the order of their names, leaves are listed in the
order of the names that lead to them (`Tree.IsOrdered.pairwise_leaves`). Trees that are built leaf
by leaf are of this kind.

## Main definitions

- `Tree.AllDirectories`: something holds of the names in every directory.
- `Tree.IsWellNamed`, `Tree.IsOrdered`: the trees whose names are distinct or in order.
-/

namespace ChangeReview.Tree

/-- Something holds of the names in every directory of the tree. -/
inductive AllDirectories {α : Type} (p : List Text → Prop) : Tree α → Prop
  | leaf (value : α) : AllDirectories p (leaf value)
  | directory {entries : List (Text × Tree α)} (names : p (entries.map (·.1)))
      (below : ∀ entry ∈ entries, AllDirectories p entry.2) : AllDirectories p (directory entries)

variable {α : Type} {tree node : Tree α} {entries : List (Text × Tree α)} {names : List Text}
  {name : Text} {value : α}

/-- In every directory the entries have different names. -/
def IsWellNamed (tree : Tree α) : Prop :=
  tree.AllDirectories fun names => (∀ name ∈ names, Path.IsEntryName name) ∧ names.Nodup

/-- In every directory the entries stand in the order of the bytes of their names. -/
def IsOrdered (tree : Tree α) : Prop :=
  tree.AllDirectories fun names =>
    (∀ name ∈ names, Path.IsEntryName name) ∧ names.Pairwise fun a b => a.utf8 < b.utf8

theorem AllDirectories.imp {p q : List Text → Prop} (hpq : ∀ names, p names → q names)
    (h : tree.AllDirectories p) : tree.AllDirectories q := by
  induction h with
  | leaf value => exact .leaf value
  | directory names _ ih => exact .directory (hpq _ names) ih

theorem IsOrdered.isWellNamed (h : tree.IsOrdered) : tree.IsWellNamed :=
  h.imp fun _ ⟨hnames, hpairwise⟩ =>
    ⟨hnames, hpairwise.imp fun hlt heq => (Text.utf8_lt_utf8_iff.mp hlt).ne heq⟩

/-! ## What the leaves are -/

theorem entryLeaves_eq_flatMap (entries : List (Text × Tree α)) :
    entryLeaves entries = entries.flatMap fun entry =>
      entry.2.leaves.map fun leaf => (entry.1 :: leaf.1, leaf.2) := by
  induction entries with
  | nil => rfl
  | cons entry entries ih => rw [entryLeaves, ih, List.flatMap_cons]

theorem mem_leaves_directory :
    (names, value) ∈ (directory entries).leaves ↔
      ∃ entry ∈ entries, ∃ rest, (rest, value) ∈ entry.2.leaves ∧ entry.1 :: rest = names := by
  rw [leaves, entryLeaves_eq_flatMap]
  simp [List.mem_flatMap]

theorem lookup_eq_some_iff_mem (h : (entries.map (·.1)).Nodup) :
    entries.lookup name = some tree ↔ (name, tree) ∈ entries := by
  induction entries with
  | nil => simp
  | cons entry entries ih =>
    obtain ⟨other, old⟩ := entry
    obtain ⟨hother, hentries⟩ := List.nodup_cons.mp h
    rw [List.lookup_cons, List.mem_cons]
    by_cases heq : name = other
    · subst heq
      have hnot : (name, tree) ∉ entries := fun hmem =>
        hother (List.mem_map.mpr ⟨_, hmem, rfl⟩)
      simp [hnot, eq_comm]
    · have hbeq : (name == other) = false := beq_false_of_ne heq
      rw [hbeq]
      simp [heq, ih hentries]

theorem leaf?_cons :
    (directory entries).leaf? (name :: names) = (entries.lookup name).bind (leaf? names) := by
  rw [leaf?, find?, Option.bind_assoc]
  rfl

/-- The listed leaves are those that names lead to. -/
theorem IsWellNamed.mem_leaves_iff (h : tree.IsWellNamed) :
    (names, value) ∈ tree.leaves ↔ tree.leaf? names = some value := by
  induction h generalizing names with
  | leaf other =>
    cases names with
    | nil => simp [leaves, leaf?, find?, value?, eq_comm]
    | cons name names => simp [leaves, leaf?, find?, Tree.entries]
  | @directory entries hnames below ih =>
    rw [mem_leaves_directory]
    cases names with
    | nil => simp [leaf?, find?, value?]
    | cons name names =>
      rw [leaf?_cons, Option.bind_eq_some_iff]
      constructor
      · rintro ⟨⟨_, inner⟩, hentry, rest, hleaf, hcons⟩
        obtain ⟨rfl, rfl⟩ := List.cons.inj hcons
        exact ⟨inner, (lookup_eq_some_iff_mem hnames.2).mpr hentry, (ih _ hentry).mp hleaf⟩
      · rintro ⟨inner, hlookup, hleaf⟩
        have hentry := (lookup_eq_some_iff_mem hnames.2).mp hlookup
        exact ⟨_, hentry, names, (ih _ hentry).mpr hleaf, rfl⟩

theorem IsWellNamed.isEntryName (h : tree.IsWellNamed) (hleaf : (names, value) ∈ tree.leaves) :
    ∀ name ∈ names, Path.IsEntryName name := by
  induction h generalizing names with
  | leaf other =>
    obtain ⟨rfl, _⟩ := Prod.mk.inj (List.mem_singleton.mp hleaf)
    simp
  | directory hnames below ih =>
    obtain ⟨entry, hentry, rest, hrest, rfl⟩ := mem_leaves_directory.mp hleaf
    exact List.forall_mem_cons.mpr
      ⟨hnames.1 _ (List.mem_map.mpr ⟨entry, hentry, rfl⟩), ih entry hentry hrest⟩

/-! ## Their order -/

/-- A relation between the names of entries carries over to the leaves below them. -/
theorem AllDirectories.pairwise_leaves {r : Text → Text → Prop} {s : List Text → List Text → Prop}
    (hhead : ∀ a b x y, r a b → s (a :: x) (b :: y)) (htail : ∀ a x y, s x y → s (a :: x) (a :: y))
    (h : tree.AllDirectories (List.Pairwise r)) : (tree.leaves.map (·.1)).Pairwise s := by
  induction h with
  | leaf value => exact List.pairwise_singleton _ _
  | directory hnames below ih =>
    rw [leaves, entryLeaves_eq_flatMap, List.map_flatMap, List.pairwise_flatMap]
    constructor
    · intro entry hentry
      rw [List.map_map]
      exact List.pairwise_map.mpr ((List.pairwise_map.mp (ih entry hentry)).imp (htail _ _ _))
    · refine (List.pairwise_map.mp hnames).imp fun hr x hx y hy => ?_
      simp only [List.map_map, List.mem_map] at hx hy
      obtain ⟨_, _, rfl⟩ := hx
      obtain ⟨_, _, rfl⟩ := hy
      exact hhead _ _ _ _ hr

theorem IsWellNamed.nodup_leaves (h : tree.IsWellNamed) : (tree.leaves.map (·.1)).Nodup :=
  (h.imp fun _ hnames => hnames.2).pairwise_leaves
    (fun _ _ _ _ hne heq => hne (List.cons.inj heq).1)
    fun _ _ _ hne heq => hne (List.cons.inj heq).2

/-- A walk meets the leaves in the order of the names that lead to them. -/
theorem IsOrdered.pairwise_leaves (h : tree.IsOrdered) :
    (tree.leaves.map (·.1)).Pairwise (· < ·) :=
  (h.imp fun _ hnames => hnames.2).pairwise_leaves
    (fun _ _ _ _ hlt => List.cons_lt_cons_iff.mpr (.inl (Text.utf8_lt_utf8_iff.mp hlt)))
    fun _ _ _ hlt => List.cons_lt_cons_iff.mpr (.inr ⟨rfl, hlt⟩)

/-! ## Trees that are built -/

theorem mem_putEntry {entry : Text × Tree α} (h : entry ∈ putEntry name tree entries) :
    entry = (name, tree) ∨ entry ∈ entries := by
  induction entries with
  | nil => exact .inl (List.mem_singleton.mp h)
  | cons first entries ih =>
    rw [putEntry] at h
    split_ifs at h
    · exact (List.mem_cons.mp h).imp_right (List.mem_cons_of_mem _)
    · exact List.mem_cons.mp h
    · rcases List.mem_cons.mp h with rfl | h
      · exact .inr List.mem_cons_self
      · exact (ih h).imp_right (List.mem_cons_of_mem _)

theorem pairwise_putEntry (h : (entries.map (·.1)).Pairwise (· < ·)) :
    ((putEntry name tree entries).map (·.1)).Pairwise (· < ·) := by
  induction entries with
  | nil => exact List.pairwise_singleton _ _
  | cons first entries ih =>
    obtain ⟨hfirst, hentries⟩ := List.pairwise_cons.mp h
    rw [putEntry]
    split_ifs with heq hlt
    · subst heq
      exact h
    · refine List.pairwise_cons.mpr ⟨fun other hother => ?_, h⟩
      rcases List.mem_cons.mp hother with rfl | hother
      · exact hlt
      · exact hlt.trans (hfirst other hother)
    · refine List.pairwise_cons.mpr ⟨fun other hother => ?_, ih hentries⟩
      obtain ⟨entry, hentry, rfl⟩ := List.mem_map.mp hother
      rcases mem_putEntry hentry with rfl | hentry
      · exact lt_of_le_of_ne (not_lt.mp hlt) (Ne.symm heq)
      · exact hfirst _ (List.mem_map_of_mem hentry)

theorem isOrdered_directory :
    (directory entries).IsOrdered ↔
      (∀ entry ∈ entries, Path.IsEntryName entry.1 ∧ entry.2.IsOrdered) ∧
        (entries.map (·.1)).Pairwise (· < ·) := by
  constructor
  · rintro (_ | ⟨hnames, hbelow⟩)
    exact ⟨fun entry hentry => ⟨hnames.1 _ (List.mem_map_of_mem hentry), hbelow entry hentry⟩,
      hnames.2.imp Text.utf8_lt_utf8_iff.mp⟩
  · rintro ⟨hentries, hpairwise⟩
    exact .directory
      ⟨List.forall_mem_map.mpr fun entry hentry => (hentries entry hentry).1,
        hpairwise.imp Text.utf8_lt_utf8_iff.mpr⟩
      fun entry hentry => (hentries entry hentry).2

theorem IsOrdered.directory_putEntry (h : (directory entries).IsOrdered)
    (hname : Path.IsEntryName name) (htree : tree.IsOrdered) :
    (directory (putEntry name tree entries)).IsOrdered := by
  obtain ⟨hentries, hpairwise⟩ := isOrdered_directory.mp h
  refine isOrdered_directory.mpr ⟨fun entry hentry => ?_, pairwise_putEntry hpairwise⟩
  rcases mem_putEntry hentry with rfl | hentry
  · exact ⟨hname, htree⟩
  · exact hentries entry hentry

theorem isOrdered_empty : (empty : Tree α).IsOrdered :=
  isOrdered_directory.mpr ⟨fun _ hentry => absurd hentry List.not_mem_nil, .nil⟩

theorem IsOrdered.directory_entries (h : tree.IsOrdered) : (directory tree.entries).IsOrdered := by
  cases tree with
  | leaf value => exact isOrdered_empty
  | directory entries => exact h

theorem IsOrdered.insert (hnode : node.IsOrdered) (hnames : ∀ name ∈ names, Path.IsEntryName name)
    (h : tree.IsOrdered) : (Tree.insert node names tree).IsOrdered := by
  induction names generalizing tree with
  | nil => exact hnode
  | cons name names ih =>
    obtain ⟨hname, hnames⟩ := List.forall_mem_cons.mp hnames
    refine h.directory_entries.directory_putEntry hname (ih hnames ?_)
    cases hlookup : tree.entries.lookup name with
    | none => exact isOrdered_empty
    | some inner =>
      obtain ⟨front, back, hentries, _⟩ := List.lookup_eq_some_iff.mp hlookup
      exact ((isOrdered_directory.mp h.directory_entries).1 (name, inner) (by simp [hentries])).2

/-- A tree of given leaves has its entries in order. -/
theorem isOrdered_ofLeaves {leaves : List (List Text × α)}
    (h : ∀ leaf ∈ leaves, ∀ name ∈ leaf.1, Path.IsEntryName name) :
    (ofLeaves leaves).IsOrdered := by
  refine List.foldlRecOn leaves _ isOrdered_empty fun tree htree leaf hleaf => ?_
  exact IsOrdered.insert (.leaf leaf.2) (h leaf hleaf) htree

end ChangeReview.Tree
