import ChangeReview.Comment.Block
import ChangeReview.Proofs.Comment.Reading
import Mathlib.Data.List.TakeWhile

/-!
# The walk upward to a documentation block

The walk passes over blank lines and decorators and then, once it is inside a block, over anything
until the block's opening. `DocBlock.opener?_eq_none` says why it stops in time: it can only leave
the file by an opening line that no comment follows to an end, and such a comment would still be
open. `DocBlock.above?_append` puts lines above a file without changing what the walk finds.
-/

namespace ChangeReview

namespace DocBlock

/-! ## Lines with their indices -/

/-- The line with `count` more lines above it. -/
def Line.shift (count : Nat) (line : Line) : Line := { line with index := line.index + count }

/-- The lines from an index on, the first of which begins inside a comment or not. -/
def annotateFrom (index : Nat) (isOpen : Bool) : List Text → List Line
  | [] => []
  | line :: lines =>
    ⟨index, Text.trim line, isOpen⟩ ::
      annotateFrom (index + 1) (Comment.openAfter isOpen line) lines

theorem annotate_eq (lines : List Text) : annotate lines = annotateFrom 0 false lines := by
  have hfrom (index : Nat) (isOpen : Bool) :
      ((lines.zip (Comment.startsOpenFrom isOpen lines)).zipIdx index).map
        (fun entry => (⟨entry.2, Text.trim entry.1.1, entry.1.2⟩ : Line)) =
      annotateFrom index isOpen lines := by
    induction lines generalizing index isOpen with
    | nil => rfl
    | cons line lines ih =>
      rw [Comment.startsOpenFrom, List.zip_cons_cons, List.zipIdx_cons, List.map_cons, ih]
      rfl
  exact hfrom 0 false

theorem length_annotateFrom (index : Nat) (isOpen : Bool) (lines : List Text) :
    (annotateFrom index isOpen lines).length = lines.length := by
  induction lines generalizing index isOpen with
  | nil => rfl
  | cons line lines ih => rw [annotateFrom, List.length_cons, ih, List.length_cons]

theorem annotateFrom_append (index : Nat) (isOpen : Bool) (a b : List Text) :
    annotateFrom index isOpen (a ++ b) =
      annotateFrom index isOpen a ++
        annotateFrom (index + a.length) (Comment.openAfterLines isOpen a) b := by
  induction a generalizing index isOpen with
  | nil => rfl
  | cons line a ih =>
    rw [List.cons_append, annotateFrom, ih, annotateFrom, List.cons_append, List.length_cons,
      Comment.openAfterLines_cons, show index + 1 + a.length = index + (a.length + 1) by omega]

theorem annotateFrom_shift (index count : Nat) (isOpen : Bool) (lines : List Text) :
    annotateFrom (index + count) isOpen lines =
      (annotateFrom index isOpen lines).map (Line.shift count) := by
  induction lines generalizing index isOpen with
  | nil => rfl
  | cons line lines ih =>
    rw [annotateFrom, annotateFrom, List.map_cons, ← ih, Line.shift,
      show index + count + 1 = index + 1 + count by omega]

/-! ## What a shift leaves alone -/

/-- The extent of a block with `count` more lines above it. -/
def shiftExtent (count : Nat) : Shape × Nat × Nat → Shape × Nat × Nat
  | (shape, first, last) => (shape, first + count, last + count)

theorem opener?_shift (count : Nat) (above : List Line) :
    opener? (above.map (Line.shift count)) = (opener? above).map (Line.shift count) := by
  induction above with
  | nil => rfl
  | cons line above ih =>
    rw [List.map_cons, opener?, opener?]
    simp only [show (line.shift count).hasCloser = line.hasCloser from rfl,
      show (line.shift count).startsBlock = line.startsBlock from rfl,
      show (line.shift count).startsComment = line.startsComment from rfl]
    split_ifs <;> first | rfl | exact ih

theorem extent?_shift (count : Nat) (above : List Line) :
    extent? (above.map (Line.shift count)) = (extent? above).map (shiftExtent count) := by
  have hprelude : (·.isPrelude) ∘ Line.shift count = (·.isPrelude) := rfl
  have hcloser : (·.hasCloser) ∘ Line.shift count = (·.hasCloser) := rfl
  rw [extent?, extent?, List.takeWhile_map, List.dropWhile_map, hprelude]
  cases above.dropWhile (·.isPrelude) with
  | nil => rfl
  | cons line rest =>
    simp only [List.map_cons, ← List.map_reverse, List.find?_map, hcloser, opener?_shift,
      show (line.shift count).isWholeBlock = line.isWholeBlock from rfl,
      show (line.shift count).startsBlock = line.startsBlock from rfl,
      show (line.shift count).startsComment = line.startsComment from rfl,
      show (line.shift count).endsComment = line.endsComment from rfl,
      show (line.shift count).trimmed = line.trimmed from rfl]
    split_ifs <;> first | rfl | (rw [Option.map_map, Option.map_map]; rfl)

/-! ## Where the walk ends -/

/-- A line that neither belongs to a block nor may stand below one. -/
structure Line.IsWall (line : Line) : Prop where
  not_prelude : line.isPrelude = false
  not_startsComment : line.startsComment = false
  not_endsComment : line.endsComment = false
  not_star : headIs '*' line.trimmed = false

/-- A line of a file at which the walk ends: neither blank nor a decorator nor part of a block. -/
structure EndsWalk (line : Text) : Prop where
  not_blank : Text.trim line ≠ []
  not_star : ¬ ['*'] <+: Text.trim line
  not_opener : ¬ ['/', '*'] <+: Text.trim line
  not_decorator : ¬ ['@'] <+: Text.trim line
  not_closer : ¬ ['*', '/'] <:+ Text.trim line

theorem isDecorator_eq_false {trimmed : Text} (h : ¬ ['@'] <+: trimmed) :
    isDecorator trimmed = false := by
  unfold isDecorator
  split
  · next rest => exact absurd ⟨rest, rfl⟩ h
  · rfl

theorem EndsWalk.isWall {line : Text} (h : EndsWalk line) (index : Nat) (isOpen : Bool) :
    Line.IsWall ⟨index, Text.trim line, isOpen⟩ where
  not_prelude := by
    simp [Line.isPrelude, h.not_blank, isDecorator_eq_false h.not_decorator]
  not_startsComment := by
    rw [← Bool.not_eq_true]
    exact fun hprefix => h.not_opener (List.isPrefixOf_iff_prefix.mp hprefix)
  not_endsComment := by
    rw [← Bool.not_eq_true]
    exact fun hsuffix => h.not_closer (List.isSuffixOf_iff_suffix.mp hsuffix)
  not_star := by
    rw [← Bool.not_eq_true]
    intro hhead
    obtain ⟨rest, hrest⟩ := List.head?_eq_some_iff.mp (eq_of_beq hhead)
    exact h.not_star ⟨rest, hrest.symm⟩

theorem Line.startsComment_of_startsBlock {line : Line} (h : line.startsBlock = true) :
    line.startsComment = true := by
  rw [startsBlock, List.isPrefixOf_iff_prefix] at h
  rw [startsComment, List.isPrefixOf_iff_prefix]
  exact List.IsPrefix.trans (by decide) h

/-- Past the prelude, the nearest line decides. -/
theorem extent?_append_of_isPrelude {prelude above : List Line} {line : Line}
    (hprelude : ∀ l ∈ prelude, l.isPrelude = true) (hline : line.isPrelude = false) :
    extent? (prelude ++ line :: above) =
      if line.isWholeBlock then some (.singleLine, line.index, line.index)
      else if line.startsBlock then
        (prelude.reverse.find? (·.hasCloser)).map fun closer =>
          (.multiLine, line.index, closer.index)
      else if line.startsComment then none
      else if line.endsComment || headIs '*' line.trimmed then
        (opener? above).map fun opener => (.multiLine, opener.index, line.index)
      else none := by
  have htake : (prelude ++ line :: above).takeWhile (·.isPrelude) = prelude := by
    rw [List.takeWhile_append_of_pos hprelude, List.takeWhile_cons_of_neg (by simp [hline]),
      List.append_nil]
  have hdrop : (prelude ++ line :: above).dropWhile (·.isPrelude) = line :: above := by
    rw [List.dropWhile_append_of_pos hprelude, List.dropWhile_cons_of_neg (by simp [hline])]
  rw [extent?, htake, hdrop]

theorem extent?_eq_none_of_isPrelude {prelude : List Line}
    (hprelude : ∀ l ∈ prelude, l.isPrelude = true) : extent? prelude = none := by
  rw [extent?, List.dropWhile_eq_nil_iff.mpr hprelude]

theorem extent?_wall {prelude above : List Line} {wall : Line}
    (hprelude : ∀ line ∈ prelude, line.isPrelude = true) (hwall : wall.IsWall) :
    extent? (prelude ++ wall :: above) = none := by
  have hblock : wall.startsBlock = false := by
    by_contra h
    have := Line.startsComment_of_startsBlock (by simpa using h)
    rw [hwall.not_startsComment] at this
    cases this
  rw [extent?_append_of_isPrelude hprelude hwall.not_prelude]
  simp [Line.isWholeBlock, hblock, hwall.not_startsComment, hwall.not_endsComment,
    hwall.not_star]

theorem opener?_append {beyond : List Line} (h : opener? beyond = none) (above : List Line) :
    opener? (above ++ beyond) = opener? above := by
  induction above with
  | nil => exact h
  | cons line above ih => rw [List.cons_append, opener?, opener?, ih]

/-- What lies beyond a wall plays no part if no block opens there. -/
theorem extent?_append {wall : Line} {beyond : List Line} (hwall : wall.IsWall)
    (hbeyond : opener? (wall :: beyond) = none) (above : List Line) :
    extent? (above ++ wall :: beyond) = extent? above := by
  by_cases hprelude : ∀ line ∈ above, line.isPrelude = true
  · rw [extent?_wall hprelude hwall, extent?_eq_none_of_isPrelude hprelude]
  · have hdrop : above.dropWhile (·.isPrelude) ≠ [] := fun h =>
      hprelude (List.dropWhile_eq_nil_iff.mp h)
    obtain ⟨line, rest, hline⟩ := List.exists_cons_of_ne_nil hdrop
    have htake : (above ++ wall :: beyond).takeWhile (·.isPrelude) =
        above.takeWhile (·.isPrelude) := by
      rw [List.takeWhile_append, if_neg]
      intro hlength
      have hparts : (above.takeWhile (·.isPrelude) ++ above.dropWhile (·.isPrelude)).length =
          above.length := by rw [List.takeWhile_append_dropWhile]
      rw [List.length_append, hline, List.length_cons] at hparts
      omega
    rw [extent?, extent?, htake, List.dropWhile_append, if_neg (by simp [hline]), hline]
    simp only [List.cons_append, opener?_append hbeyond]

theorem hasCloser_eq_false_iff {index : Nat} {isOpen : Bool} {line : Text} :
    (⟨index, Text.trim line, isOpen⟩ : Line).hasCloser = false ↔ ¬ ['*', '/'] <:+: line := by
  rw [Line.hasCloser, Text.contains_eq_false_iff]
  exact not_congr (Text.infix_trim_iff (by decide) (by decide) rfl line)

/-- The opening line of a block leaves a comment open, unless the comment ends on it. -/
theorem openAfter_of_startsBlock {index : Nat} {startsOpen : Bool} {line : Text}
    (hblock : (⟨index, Text.trim line, startsOpen⟩ : Line).startsBlock = true)
    (hno : ¬ ['*', '/'] <:+: line) (isOpen : Bool) : Comment.openAfter isOpen line = true := by
  obtain ⟨lead, tail, hline, hlead, _, _⟩ := Text.exists_trim line
  obtain ⟨rest, hrest⟩ := List.isPrefixOf_iff_prefix.mp hblock
  have htrim : Text.trim line = '/' :: '*' :: ('*' :: rest) := hrest.symm
  rw [htrim, List.append_assoc, List.cons_append, List.cons_append] at hline
  rw [hline] at hno ⊢
  exact Comment.openAfter_of_opener hlead hno isOpen

/-- Going up from the end of lines after which no comment is open, no block opens: it would have no
end. -/
theorem opener?_eq_none {index : Nat} {isOpen : Bool} {lines : List Text}
    (h : Comment.openAfterLines isOpen lines = false) :
    opener? (annotateFrom index isOpen lines).reverse = none := by
  induction lines using List.reverseRecOn with
  | nil => rfl
  | append_singleton lines line ih =>
    rw [Comment.openAfterLines_append] at h
    change Comment.openAfter _ line = false at h
    rw [annotateFrom_append, List.reverse_append]
    simp only [annotateFrom, List.reverse_singleton, List.singleton_append]
    rw [opener?]
    split_ifs with hcloser hblock hcomment
    · rfl
    · -- A block that opens here would still be open at the end.
      have hno := hasCloser_eq_false_iff.mp (by simpa using hcloser)
      rw [openAfter_of_startsBlock hblock hno] at h
      cases h
    · rfl
    · -- Nor is a comment open above this line, which does not end one.
      refine ih ?_
      by_contra hopen
      have hno := hasCloser_eq_false_iff.mp (by simpa using hcloser)
      rw [show Comment.openAfterLines isOpen lines = true by simpa using hopen,
        Comment.openAfter_true hno] at h
      cases h

/-! ## Lines above a file -/

/-- The block with `count` more lines above it. -/
def shift (count : Nat) (block : DocBlock) : DocBlock :=
  { block with first := block.first + count, last := block.last + count }

/-- Lines that end with a wall outside comments can stand above a file without changing which block
belongs to a declaration. -/
theorem above?_append {upper : List Text} {wall : Text} (lower : List Text) (target : Nat)
    (hclosed : Comment.openAfterLines false (upper ++ [wall]) = false)
    (hwall : EndsWalk wall) :
    above? (upper ++ [wall] ++ lower) (target + (upper ++ [wall]).length) =
      (above? lower target).map (shift (upper ++ [wall]).length) := by
  have hlines : ((annotate (upper ++ [wall] ++ lower)).take
      (target + (upper ++ [wall]).length)).reverse =
      ((annotate lower).take target).reverse.map (Line.shift (upper ++ [wall]).length) ++
        (annotateFrom 0 false (upper ++ [wall])).reverse := by
    rw [annotate_eq, annotate_eq, annotateFrom_append, hclosed, annotateFrom_shift,
      Nat.add_comm target]
    conv_lhs => rw [← length_annotateFrom 0 false (upper ++ [wall])]
    rw [List.take_length_add_append, List.reverse_append, ← List.map_take, List.map_reverse,
      length_annotateFrom]
  have hbeyond := @opener?_eq_none 0 _ _ hclosed
  rw [above?, hlines, above?]
  rw [annotateFrom_append, List.reverse_append] at hbeyond ⊢
  simp only [annotateFrom, List.reverse_singleton, List.singleton_append] at hbeyond ⊢
  rw [extent?_append (hwall.isWall _ _) hbeyond, extent?_shift, Option.map_map, Option.map_map]
  congr 1
  funext extent
  simp only [Function.comp, shiftExtent, shift]
  congr 2
  rw [show extent.2.2 + (upper ++ [wall]).length + 1 =
      (upper ++ [wall]).length + (extent.2.2 + 1) by omega, List.take_length_add_append,
    Nat.add_comm extent.2.1, List.drop_length_add_append]

end DocBlock

end ChangeReview
