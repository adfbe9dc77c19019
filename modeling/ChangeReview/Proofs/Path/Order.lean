import ChangeReview.Proofs.Text.ByteOrder
import ChangeReview.Proofs.Text.Parts
import ChangeReview.Tree
import Mathlib.Data.List.Sort
import Mathlib.Data.Prod.Lex

/-!
# The order of paths

Paths are ordered component by component. Below one directory this is the lexicographic order of the
names that lead from it, whether a path is put together name by name (`Path.before_foldl_join_iff`)
or written with slashes between the names (`Path.before_pathOf_iff`).

## Main definitions

- `Path.IsEntryName`: the names that entries of a directory can have.
- `Path.sortKey`: what a path is ordered by.
-/

namespace ChangeReview.Path

/-- A name that an entry of a directory can have: it has no slash in it, and it is not empty, a dot
or two dots. -/
def IsEntryName (name : Text) : Prop := '/' ∉ name ∧ name ∉ ([[], ['.'], ['.', '.']] : List Text)

instance : DecidablePred IsEntryName := fun name =>
  inferInstanceAs (Decidable ('/' ∉ name ∧ name ∉ ([[], ['.'], ['.', '.']] : List Text)))

/-- What a component is ordered by. -/
def Component.key (component : Component) : ℕ ×ₗ Text := toLex (component.rank, component.letters)

/-- What a path is ordered by. -/
def sortKey (path : Path) : List (ℕ ×ₗ Text) := (components path).map Component.key

variable {name : Text} {names a b : List Text} {base : Path}

/-! ## Components -/

theorem IsEntryName.ne_nil (h : IsEntryName name) : name ≠ [] := by
  rintro rfl
  exact h.2 (by decide)

theorem IsEntryName.isAbsolute (h : IsEntryName name) : isAbsolute name = false :=
  Bool.eq_false_iff.mpr fun hslash => h.1 (List.mem_of_head? (beq_iff_eq.mp hslash))

theorem IsEntryName.ofPart? (h : IsEntryName name) :
    Component.ofPart? name = some (.name name) := by
  have hne := h.2
  simp only [List.mem_cons, List.not_mem_nil, or_false, not_or] at hne
  simp [Component.ofPart?, isSkipped, hne]

theorem anchor_append (h : base ≠ []) (rest : Text) :
    anchor (base ++ '/' :: rest) = anchor base := by
  obtain ⟨c, base, rfl⟩ := List.exists_cons_of_ne_nil h
  have habsolute : isAbsolute (c :: base ++ '/' :: rest) = isAbsolute (c :: base) := rfl
  have hhere : startsHere (c :: base ++ '/' :: rest) = startsHere (c :: base) := by
    cases base with
    | nil => by_cases hc : c = '.' <;> simp [startsHere, hc]
    | cons d base => by_cases hc : c = '.' <;> by_cases hd : d = '/' <;> simp [startsHere, hc, hd]
  rw [anchor, anchor, habsolute, hhere]

theorem length_anchor_le (path : Path) : (anchor path).length ≤ 1 := by
  rw [anchor]
  split
  · exact le_rfl
  · split <;> simp

/-- A slash separates the components before it from those behind it. -/
theorem components_append (h : base ≠ []) (rest : Text) :
    components (base ++ '/' :: rest) =
      components base ++ (Text.splitOnChar '/' rest).filterMap Component.ofPart? := by
  have hlength : (anchor base).length ≤ base.length :=
    (length_anchor_le base).trans (List.length_pos_iff.mpr h)
  rw [components, components, parts, parts, anchor_append h, List.drop_append_of_le_length hlength,
    Text.splitOnChar_append_separator, List.filterMap_append, List.append_assoc]

theorem IsEntryName.anchor (h : IsEntryName name) : anchor name = [] := by
  have hhere : startsHere name = false := by
    unfold startsHere
    split
    · exact absurd h.2 (by decide)
    · exact absurd h.1 (by simp)
    · rfl
  rw [Path.anchor, h.isAbsolute, hhere]
  rfl

theorem IsEntryName.components (h : IsEntryName name) : components name = [.name name] := by
  rw [Path.components, parts, h.anchor, List.length_nil, List.drop_zero,
    Text.splitOnChar_of_notMem h.1, List.nil_append, List.filterMap_cons_some h.ofPart?,
    List.filterMap_nil]

/-- A name adds one component, whether the base ends with a slash or not. -/
theorem components_join (h : IsEntryName name) (base : Path) :
    components (join base name) = components base ++ [.name name] := by
  have hpart : (Text.splitOnChar '/' name).filterMap Component.ofPart? = [.name name] := by
    rw [Text.splitOnChar_of_notMem h.1, List.filterMap_cons_some h.ofPart?, List.filterMap_nil]
  rw [join, h.isAbsolute, if_neg Bool.false_ne_true]
  by_cases hempty : base = []
  · subst hempty
    exact h.components
  by_cases hslash : base.getLast? = some '/'
  · obtain ⟨front, rfl⟩ := List.getLast?_eq_some_iff.mp hslash
    have happend : front ++ ['/'] ++ name = front ++ '/' :: name := List.append_assoc _ _ _
    rw [if_pos (by simp), happend]
    by_cases hfront : front = []
    · subst hfront
      exact congrArg (Component.root :: ·) hpart
    · rw [components_append hfront, components_append hfront, hpart]
      exact congrArg (· ++ _) (List.append_nil _).symm
  · rw [if_neg (by simp [hempty, hslash]), components_append hempty, hpart]

/-! ## The order -/

theorem Component.before_iff {a b : Component} : a.before b = true ↔ a.key < b.key := by
  rw [Component.key, Component.key, Prod.Lex.toLex_lt_toLex]
  simp [Component.before]

theorem Component.key_injective : Function.Injective Component.key := by
  intro a b h
  obtain ⟨hrank, hletters⟩ := Prod.mk.inj (toLex.injective h)
  cases a <;> cases b <;> first | rfl | exact congrArg Component.name hletters | cases hrank

theorem componentsBefore_iff {a b : List Component} :
    componentsBefore a b = true ↔ a.map Component.key < b.map Component.key := by
  induction a generalizing b with
  | nil => cases b <;> simp [componentsBefore]
  | cons c a ih =>
    cases b with
    | nil => simp [componentsBefore]
    | cons d b =>
      rw [componentsBefore, List.map_cons, List.map_cons, List.cons_lt_cons_iff, ← ih,
        ← Component.before_iff, Component.key_injective.eq_iff]
      simp

/-- Paths are ordered by their keys. -/
theorem before_iff {a b : Path} : before a b = true ↔ sortKey a < sortKey b := componentsBefore_iff

/-- Sorting puts paths with different keys in strict order. -/
theorem pairwise_mergeSort {paths : List Path} (h : (paths.map sortKey).Nodup) :
    (paths.mergeSort fun a b => !before b a).Pairwise fun a b => before a b = true := by
  have hle : ∀ a b : Path, (!before b a) = true ↔ sortKey a ≤ sortKey b := by
    intro a b
    rw [Bool.not_eq_true', ← Bool.not_eq_true, before_iff, not_lt]
  have hsorted : (paths.mergeSort fun a b => !before b a).Pairwise
      fun a b => (!before b a) = true := by
    refine List.pairwise_mergeSort (fun a b c hab hbc => ?_) (fun a b => ?_) paths
    · exact (hle a c).mpr (((hle a b).mp hab).trans ((hle b c).mp hbc))
    · rw [Bool.or_eq_true, hle, hle]
      exact le_total _ _
  have hdistinct : (paths.mergeSort fun a b => !before b a).Pairwise
      fun a b => sortKey a ≠ sortKey b :=
    List.pairwise_map.mp ((((List.mergeSort_perm _ _).map _).nodup_iff).mpr h)
  exact (hsorted.and hdistinct).imp fun ⟨hab, hne⟩ =>
    before_iff.mpr (lt_of_le_of_ne ((hle _ _).mp hab) hne)

theorem before_irrefl (path : Path) : ¬ before path path = true := fun h =>
  lt_irrefl _ (before_iff.mp h)

theorem before_asymm {p q : Path} (h : before p q = true) : ¬ before q p = true := fun hqp =>
  lt_asymm (before_iff.mp h) (before_iff.mp hqp)

theorem nodup_of_pairwise_before {paths : List Path}
    (h : paths.Pairwise fun a b => before a b = true) : paths.Nodup := by
  refine List.Pairwise.imp (fun {a b} hbefore => ?_) h
  rintro rfl
  exact before_irrefl a hbefore

/-- Paths in strict order are what sorting makes of them in any order. -/
theorem mergeSort_eq {paths sorted : List Path} (hperm : paths.Perm sorted)
    (hsorted : sorted.Pairwise fun a b => before a b = true) :
    (paths.mergeSort fun a b => !before b a) = sorted := by
  have hkeys : (sorted.map sortKey).Nodup := List.pairwise_map.mpr
    (hsorted.imp fun hbefore => (before_iff.mp hbefore).ne)
  exact ((List.mergeSort_perm _ _).trans hperm).eq_of_pairwise
    (fun _ _ _ _ hab hba => absurd hba (before_asymm hab))
    (pairwise_mergeSort (((hperm.map sortKey).nodup_iff).mpr hkeys)) hsorted

/-- Where paths stand in strict order, the earlier one of two is the one that comes first. -/
theorem pair_sublist_iff {p q : Path} {paths : List Path}
    (h : paths.Pairwise fun a b => before a b = true) :
    [p, q].Sublist paths ↔ p ∈ paths ∧ q ∈ paths ∧ before p q = true := by
  constructor
  · intro hsub
    exact ⟨hsub.subset (by simp), hsub.subset (by simp), by simpa using h.sublist hsub⟩
  · rintro ⟨hp, hq, hbefore⟩
    have hantisymm : Std.Antisymm fun a b : Path => before a b = true :=
      ⟨fun a b hab hba => absurd hba (before_asymm hab)⟩
    have hne : p ≠ q := fun heq => before_irrefl q (heq ▸ hbefore)
    exact List.sublist_of_subperm_of_pairwise
      (List.subperm_of_subset (by simpa using hne) (by simp [hp, hq])) (by simpa using hbefore) h

/-! ## Names below a directory -/

/-- The key of a name as a component. -/
def nameKey (name : Text) : ℕ ×ₗ Text := (Component.name name).key

theorem nameKey_lt_iff {m n : Text} : nameKey m < nameKey n ↔ m < n := by
  rw [nameKey, nameKey, Component.key, Component.key, Prod.Lex.toLex_lt_toLex]
  simp [Component.rank, Component.letters]

theorem nameKey_injective : Function.Injective nameKey := fun _ _ h =>
  Component.name.inj (Component.key_injective h)

theorem map_nameKey_lt_iff : a.map nameKey < b.map nameKey ↔ a < b := by
  induction a generalizing b with
  | nil => cases b <;> simp
  | cons m a ih =>
    cases b with
    | nil => simp
    | cons n b =>
      rw [List.map_cons, List.map_cons, List.cons_lt_cons_iff, List.cons_lt_cons_iff, ih,
        nameKey_lt_iff, nameKey_injective.eq_iff]

theorem sortKey_foldl_join (h : ∀ name ∈ names, IsEntryName name) (base : Path) :
    sortKey (names.foldl join base) = sortKey base ++ names.map nameKey := by
  induction names generalizing base with
  | nil => exact (List.append_nil _).symm
  | cons name names ih =>
    obtain ⟨hname, hnames⟩ := List.forall_mem_cons.mp h
    rw [List.foldl_cons, ih hnames, sortKey, components_join hname, List.map_append,
      List.append_assoc]
    rfl

/-- Paths that lead from one directory are ordered by the names on the way. -/
theorem before_foldl_join_iff (ha : ∀ name ∈ a, IsEntryName name)
    (hb : ∀ name ∈ b, IsEntryName name) :
    before (a.foldl join base) (b.foldl join base) = true ↔ a < b := by
  rw [before_iff, sortKey_foldl_join ha, sortKey_foldl_join hb, Text.append_lt_append_iff,
    map_nameKey_lt_iff]

theorem foldl_join_eq_joinWith (h : ∀ name ∈ names, IsEntryName name) (hne : base ≠ [])
    (hlast : base.getLast? ≠ some '/') :
    names.foldl join base = Text.joinWith ['/'] (base :: names) := by
  induction names generalizing base with
  | nil => rfl
  | cons name names ih =>
    obtain ⟨hname, hnames⟩ := List.forall_mem_cons.mp h
    have hjoin : join base name = base ++ '/' :: name := by
      rw [join, hname.isAbsolute, if_neg Bool.false_ne_true, if_neg (by simp [hne, hlast])]
    have hend : (base ++ '/' :: name).getLast? ≠ some '/' := by
      rw [List.getLast?_append_cons, List.getLast?_cons_of_ne_nil hname.ne_nil]
      exact fun hslash => hname.1 (List.mem_of_getLast? hslash)
    rw [List.foldl_cons, hjoin, ih hnames (by simp) hend]
    cases names with
    | nil => simp [Text.joinWith]
    | cons next names => simp [Text.joinWith]

/-- A written path is put together name by name. -/
theorem pathOf_eq_foldl_join (h : ∀ name ∈ names, IsEntryName name) :
    Tree.pathOf names = names.foldl join [] := by
  cases names with
  | nil => rfl
  | cons name names =>
    obtain ⟨hname, hnames⟩ := List.forall_mem_cons.mp h
    have hlast : name.getLast? ≠ some '/' := fun hslash => hname.1 (List.mem_of_getLast? hslash)
    have hjoin : join [] name = name := by
      rw [join, hname.isAbsolute]
      rfl
    rw [List.foldl_cons, hjoin, foldl_join_eq_joinWith hnames hname.ne_nil hlast, Tree.pathOf]

theorem sortKey_pathOf (h : ∀ name ∈ names, IsEntryName name) :
    sortKey (Tree.pathOf names) = names.map nameKey := by
  rw [pathOf_eq_foldl_join h, sortKey_foldl_join h]
  rfl

/-- Written paths are ordered by the names in them. -/
theorem before_pathOf_iff (ha : ∀ name ∈ a, IsEntryName name) (hb : ∀ name ∈ b, IsEntryName name) :
    before (Tree.pathOf a) (Tree.pathOf b) = true ↔ a < b := by
  rw [before_iff, sortKey_pathOf ha, sortKey_pathOf hb, map_nameKey_lt_iff]

theorem pathOf_injective (ha : ∀ name ∈ a, IsEntryName name) (hb : ∀ name ∈ b, IsEntryName name)
    (h : Tree.pathOf a = Tree.pathOf b) : a = b := by
  have hkeys := congrArg sortKey h
  rw [sortKey_pathOf ha, sortKey_pathOf hb] at hkeys
  exact nameKey_injective.list_map hkeys

end ChangeReview.Path
