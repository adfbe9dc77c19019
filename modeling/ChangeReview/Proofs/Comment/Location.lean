import ChangeReview.Proofs.Comment.Association
import ChangeReview.Proofs.Comment.BlockAbove
import Mathlib.Order.Lattice.Nat

/-!
# Where the block of a declaration stands

`DocBlock.Location` tells the block of a declaration by greatest and least indices of lines: the
nearest line over the prelude, the first line below it on which a comment closes, the nearest line
above it at which a walk inside a comment ends. `DocBlock.above?_eq_iff` says that the walk upward
finds exactly this block.
-/

namespace ChangeReview.DocBlock

/-! ## Kinds of lines -/

/-- A line that ends the prelude: neither blank nor a decorator outside comments. -/
def EndsPrelude (lines : List Text) (index : Nat) : Prop :=
  ∃ line, lines[index]? = some line ∧ ¬ IsBlankText line ∧
    ¬ ((Comment.startsOpen lines)[index]? = some false ∧ isDecorator (Text.trim line) = true)

/-- A line on which a comment closes. -/
def Closes (lines : List Text) (index : Nat) : Prop :=
  ∃ line, lines[index]? = some line ∧ ['*', '/'] <:+: line

/-- A line on which a comment closes, or that begins with the opening of one. -/
def BoundsComment (lines : List Text) (index : Nat) : Prop :=
  ∃ line, lines[index]? = some line ∧
    (['*', '/'] <:+: Text.trim line ∨ ['/', '*'] <+: Text.trim line)

/-- A line that begins with the opening of a block and on which no comment closes. -/
def OpensBlock (lines : List Text) (index : Nat) : Prop :=
  ∃ line, lines[index]? = some line ∧ ¬ ['*', '/'] <:+: line ∧ ['/', '*', '*'] <+: Text.trim line

/-- A whole block and nothing else: more than the four bytes in which the delimiters overlap. -/
structure IsWhole (trimmed : Text) : Prop where
  long : 4 < trimmed.utf8.length
  starts : ['/', '*', '*'] <+: trimmed
  ends : ['*', '/'] <:+ trimmed

/-! ## The block -/

/-- The block from one line of a file to another. -/
def ofLines (lines : List Text) (shape : Shape) (first last : Nat) : DocBlock :=
  { shape, first, last, text := Text.joinWith ['\n'] ((lines.take (last + 1)).drop first) }

/-- What the line `nearest`, with the text `trimmed`, shows of the block over the line `target`, if
all lines between the two are prelude. -/
inductive Shows (lines : List Text) (target nearest : Nat) (trimmed : Text) : Option DocBlock → Prop
  | whole (hwhole : IsWhole trimmed) :
      Shows lines target nearest trimmed (some (ofLines lines .singleLine nearest nearest))
  | closedBelow (hwhole : ¬ IsWhole trimmed) (hstarts : ['/', '*', '*'] <+: trimmed) {last : Nat}
      (hlast : IsLeast {index | nearest < index ∧ index < target ∧ Closes lines index} last) :
      Shows lines target nearest trimmed (some (ofLines lines .multiLine nearest last))
  | unclosed (hwhole : ¬ IsWhole trimmed) (hstarts : ['/', '*', '*'] <+: trimmed)
      (hnone : ∀ index, nearest < index → index < target → ¬ Closes lines index) :
      Shows lines target nearest trimmed none
  | otherComment (hstarts : ¬ ['/', '*', '*'] <+: trimmed) (hcomment : ['/', '*'] <+: trimmed) :
      Shows lines target nearest trimmed none
  | openedAbove (hcomment : ¬ ['/', '*'] <+: trimmed)
      (hinside : ['*', '/'] <:+ trimmed ∨ ['*'] <+: trimmed) {first : Nat}
      (hfirst : IsGreatest {index | index < nearest ∧ BoundsComment lines index} first)
      (hopens : OpensBlock lines first) :
      Shows lines target nearest trimmed (some (ofLines lines .multiLine first nearest))
  | unopened (hcomment : ¬ ['/', '*'] <+: trimmed)
      (hinside : ['*', '/'] <:+ trimmed ∨ ['*'] <+: trimmed)
      (hnone : ∀ first, IsGreatest {index | index < nearest ∧ BoundsComment lines index} first →
        ¬ OpensBlock lines first) :
      Shows lines target nearest trimmed none
  | code (hcomment : ¬ ['/', '*'] <+: trimmed)
      (hinside : ¬ (['*', '/'] <:+ trimmed ∨ ['*'] <+: trimmed)) :
      Shows lines target nearest trimmed none

/-- Which block belongs to a declaration on the line `target`. -/
inductive Location (lines : List Text) (target : Nat) : Option DocBlock → Prop
  | onlyPrelude (hnone : ∀ index < target, ¬ EndsPrelude lines index) : Location lines target none
  | nearest {nearest : Nat} {line : Text} {block : Option DocBlock}
      (hnearest : IsGreatest {index | index < target ∧ EndsPrelude lines index} nearest)
      (hline : lines[nearest]? = some line)
      (hshows : Shows lines target nearest (Text.trim line) block) : Location lines target block

/-! ## Lines as the walk sees them -/

section Seen

variable {lines : List Text} {index : Nat} {line : Line} (h : (annotate lines)[index]? = some line)
include h

theorem isPrelude_eq_false_iff : line.isPrelude = false ↔ EndsPrelude lines index := by
  obtain ⟨_, ⟨text, htext, htrimmed⟩, hopen⟩ := getElem?_annotate_eq_some_iff.mp h
  have hblank : text.trim.isEmpty = true ↔ IsBlankText text := by
    rw [List.isEmpty_iff, Text.trim_eq_nil_iff]
  simp only [EndsPrelude, htext, hopen, Option.some.injEq, exists_eq_left', Line.isPrelude,
    htrimmed, ← hblank]
  simp

theorem hasCloser_eq_true_iff : line.hasCloser = true ↔ Closes lines index := by
  obtain ⟨_, ⟨text, htext, htrimmed⟩, _⟩ := getElem?_annotate_eq_some_iff.mp h
  rw [Line.hasCloser, htrimmed, Text.contains_iff_infix]
  simp only [Closes, htext, Option.some.injEq, exists_eq_left']
  exact Text.infix_trim_iff (by decide) (by decide) rfl text

theorem boundsComment_iff :
    BoundsComment lines index ↔ line.hasCloser = true ∨ line.startsComment = true := by
  obtain ⟨_, ⟨text, htext, htrimmed⟩, _⟩ := getElem?_annotate_eq_some_iff.mp h
  rw [Line.hasCloser, Line.startsComment, Text.contains_iff_infix, List.isPrefixOf_iff_prefix,
    htrimmed]
  simp only [BoundsComment, htext, Option.some.injEq, exists_eq_left']
  rfl

theorem opensBlock_iff :
    OpensBlock lines index ↔ line.hasCloser = false ∧ line.startsBlock = true := by
  obtain ⟨_, ⟨text, htext, htrimmed⟩, _⟩ := getElem?_annotate_eq_some_iff.mp h
  rw [← Bool.not_eq_true, hasCloser_eq_true_iff h, Line.startsBlock, List.isPrefixOf_iff_prefix,
    htrimmed]
  simp only [OpensBlock, Closes, htext, Option.some.injEq, exists_eq_left']
  rfl

end Seen

theorem length_le_length_utf8 (text : Text) : text.length ≤ text.utf8.length := by
  induction text with
  | nil => exact Nat.zero_le _
  | cons c text ih =>
    obtain ⟨b, bs, hbytes, _⟩ := Comment.utf8EncodeChar_eq_cons c
    have hutf8 : Text.utf8 (c :: text) = b :: bs ++ Text.utf8 text := by
      rw [Text.utf8, List.flatMap_cons, hbytes, ← Text.utf8]
    rw [hutf8, List.length_append, List.length_cons, List.length_cons]
    omega

theorem isWholeBlock_eq_true_iff {line : Line} :
    line.isWholeBlock = true ↔ IsWhole line.trimmed := by
  simp only [Line.isWholeBlock, Line.startsBlock, Line.endsComment, Bool.and_eq_true,
    decide_eq_true_eq, List.isPrefixOf_iff_prefix, List.isSuffixOf_iff_suffix]
  constructor
  · rintro ⟨⟨hlong, hstarts⟩, hends⟩
    exact ⟨hlong.trans_le (length_le_length_utf8 _), hstarts, hends⟩
  · rintro ⟨hlong, hstarts, hends⟩
    refine ⟨⟨?_, hstarts⟩, hends⟩
    -- With four characters the delimiters overlap, and all four are single bytes.
    by_contra hshort
    obtain ⟨rest, hrest⟩ := hstarts
    rw [← hrest] at hlong hends hshort
    rcases rest with _ | ⟨c, _ | ⟨d, rest⟩⟩
    · exact absurd hends (by decide)
    · obtain rfl : c = '/' := by
        obtain ⟨front, hfront⟩ := hends
        have hlast := congrArg List.getLast? hfront
        simpa using hlast.symm
      exact absurd hlong (by decide)
    · exact hshort (by simp)

/-- Below a bound, a property of indices holds nowhere or has a last index. -/
theorem exists_isGreatest_or_forall_not (bound : Nat) (P : Nat → Prop) :
    (∃ last, IsGreatest {index | index < bound ∧ P index} last) ∨ ∀ index < bound, ¬ P index := by
  by_cases h : ∃ index, index < bound ∧ P index
  · have hbound : BddAbove {index | index < bound ∧ P index} := ⟨bound, fun _ h => h.1.le⟩
    exact .inl ⟨_, Nat.sSup_mem h hbound, fun _ hindex => le_csSup hbound hindex⟩
  · exact .inr fun index hlt hindex => h ⟨index, hlt, hindex⟩

/-! ## The lines over a line -/

/-- The lines strictly between two lines, going down. -/
def linesBetween (lines : List Text) (upper lower : Nat) : List Line :=
  ((annotate lines).take lower).drop (upper + 1)

variable {lines : List Text} {upper lower : Nat}

theorem mem_linesBetween_iff {line : Line} :
    line ∈ linesBetween lines upper lower ↔
      upper < line.index ∧ line.index < lower ∧ (annotate lines)[line.index]? = some line := by
  rw [linesBetween, List.mem_iff_getElem?]
  simp only [List.getElem?_drop, List.getElem?_take]
  constructor
  · rintro ⟨offset, hget⟩
    split at hget
    · next hlt =>
      obtain ⟨hindex, _⟩ := getElem?_annotate_eq_some_iff.mp hget
      rw [hindex]
      exact ⟨by omega, hlt, hget⟩
    · cases hget
  · rintro ⟨hupper, hlower, hget⟩
    refine ⟨line.index - (upper + 1), ?_⟩
    rw [Nat.add_sub_cancel' hupper, if_pos hlower, hget]

theorem take_annotate_eq_append {line : Line} (hline : (annotate lines)[upper]? = some line)
    (hlt : upper < lower) :
    (annotate lines).take lower =
      (annotate lines).take upper ++ line :: linesBetween lines upper lower := by
  have hget : ((annotate lines).take lower)[upper]? = some line := by
    rw [List.getElem?_take, if_pos hlt, hline]
  obtain ⟨hlength, hget⟩ := List.getElem?_eq_some_iff.mp hget
  conv_lhs => rw [← List.take_append_drop upper ((annotate lines).take lower)]
  rw [List.take_take, Nat.min_eq_left hlt.le, List.drop_eq_getElem_cons hlength, hget, linesBetween]

/-- Over a line stand the lines up to one of them, that line, and the lines over it. -/
theorem linesAbove_eq_append {line : Line} (hline : (annotate lines)[upper]? = some line)
    (hlt : upper < lower) :
    linesAbove lines lower =
      (linesBetween lines upper lower).reverse ++ line :: linesAbove lines upper := by
  rw [linesAbove, take_annotate_eq_append hline hlt, List.reverse_append, List.reverse_cons,
    List.append_assoc]
  rfl

theorem linesBetween_eq_append {middle : Nat} {line : Line}
    (hline : (annotate lines)[middle]? = some line) (hupper : upper < middle)
    (hlower : middle < lower) :
    linesBetween lines upper lower =
      linesBetween lines upper middle ++ line :: linesBetween lines middle lower := by
  have hlength : upper + 1 ≤ ((annotate lines).take middle).length := by
    have := (List.getElem?_eq_some_iff.mp hline).1
    rw [List.length_take]
    omega
  rw [linesBetween, take_annotate_eq_append hline hlower, List.drop_append_of_le_length hlength]
  rfl

/-- The first of the lines between two lines on which a comment closes. -/
theorem find?_linesBetween {last : Nat}
    (hlast : IsLeast {index | upper < index ∧ index < lower ∧ Closes lines index} last) :
    ∃ closer, (linesBetween lines upper lower).find? (·.hasCloser) = some closer ∧
      closer.index = last := by
  obtain ⟨⟨hupper, hlower, hcloses⟩, hleast⟩ := hlast
  obtain ⟨text, htext, _⟩ := id hcloses
  obtain ⟨closer, hcloser, hindex, _⟩ := exists_getElem?_annotate htext
  have hfront : ∀ line ∈ linesBetween lines upper last, ¬ line.hasCloser = true := by
    intro line hline hcloses'
    obtain ⟨hgt, hlt, hget⟩ := mem_linesBetween_iff.mp hline
    have := hleast ⟨hgt, hlt.trans hlower, (hasCloser_eq_true_iff hget).mp hcloses'⟩
    omega
  refine ⟨closer, ?_, hindex⟩
  rw [linesBetween_eq_append hcloser hupper hlower, List.find?_append,
    List.find?_eq_none.mpr hfront, Option.none_or, List.find?_cons_of_pos]
  exact (hasCloser_eq_true_iff hcloser).mpr hcloses

/-- Where no line bounds a comment, the walk inside one leaves the file. -/
theorem opener?_eq_none_of_forall (hnone : ∀ index < lower, ¬ BoundsComment lines index) :
    opener? (linesAbove lines lower) = none := by
  have hskip := @opener?_skip (linesAbove lines lower) (fun line hline => ?_) []
  · rwa [List.append_nil] at hskip
  obtain ⟨hlt, hget⟩ := mem_linesAbove_iff.mp hline
  have hbounds := hnone _ hlt
  rw [boundsComment_iff hget] at hbounds
  simpa using hbounds

/-- Inside a comment the walk ends at the nearest line that bounds one, and only an opening line
makes it a block. -/
theorem opener?_eq_some_iff {first : Nat}
    (hfirst : IsGreatest {index | index < lower ∧ BoundsComment lines index} first)
    {opener : Line} :
    opener? (linesAbove lines lower) = some opener ↔
      OpensBlock lines first ∧ (annotate lines)[first]? = some opener := by
  obtain ⟨⟨hlt, hbounds⟩, hgreatest⟩ := hfirst
  obtain ⟨text, htext, _⟩ := id hbounds
  obtain ⟨line, hline, _⟩ := exists_getElem?_annotate htext
  have hskip : ∀ l ∈ (linesBetween lines first lower).reverse,
      l.hasCloser = false ∧ l.startsComment = false := by
    intro l hl
    obtain ⟨hgt, hlower, hget⟩ := mem_linesBetween_iff.mp (List.mem_reverse.mp hl)
    have hno : ¬ BoundsComment lines l.index := fun hbounds' => by
      have := hgreatest ⟨hlower, hbounds'⟩
      omega
    rw [boundsComment_iff hget] at hno
    simpa using hno
  rw [linesAbove_eq_append hline hlt, opener?_skip hskip, opener?, opensBlock_iff hline, hline]
  rw [boundsComment_iff hline] at hbounds
  split_ifs with hcloser hblock hcomment
  · simp [hcloser]
  · simp [hcloser, hblock]
  · simp [hblock]
  · simp [hcloser, hcomment] at hbounds

/-! ## The walk -/

theorem above?_eq_map (lines : List Text) (target : Nat) :
    above? lines target =
      (extent? (linesAbove lines target)).map fun (shape, first, last) =>
        ofLines lines shape first last := rfl

theorem above?_min (lines : List Text) (target : Nat) :
    above? lines (min target lines.length) = above? lines target := by
  have hlength : (annotate lines).length = lines.length := by
    rw [annotate_eq, length_annotateFrom]
  rw [above?, above?, ← hlength, ← List.take_take, List.take_length]

variable {target nearest : Nat} {block : Option DocBlock}

/-- What the nearest line over the prelude shows of the block is what the walk makes of it. -/
theorem Shows.above? {text : Text}
    (hnearest : IsGreatest {index | index < target ∧ EndsPrelude lines index} nearest)
    (htext : lines[nearest]? = some text) (h : Shows lines target nearest (Text.trim text) block) :
    above? lines target = block := by
  obtain ⟨⟨hlt, hends⟩, hgreatest⟩ := hnearest
  obtain ⟨line, hline, hindex, htrimmed⟩ := exists_getElem?_annotate htext
  have hprelude : ∀ l ∈ (linesBetween lines nearest target).reverse, l.isPrelude = true := by
    intro l hl
    obtain ⟨hgt, hlower, hget⟩ := mem_linesBetween_iff.mp (List.mem_reverse.mp hl)
    by_contra hno
    have := hgreatest ⟨hlower, (isPrelude_eq_false_iff hget).mp (by simpa using hno)⟩
    omega
  rw [← htrimmed] at h
  have hwhole := @isWholeBlock_eq_true_iff line
  have hstarts : line.startsBlock = true ↔ ['/', '*', '*'] <+: line.trimmed :=
    List.isPrefixOf_iff_prefix
  have hcomment : line.startsComment = true ↔ ['/', '*'] <+: line.trimmed :=
    List.isPrefixOf_iff_prefix
  have hinside : (line.endsComment || headIs '*' line.trimmed) = true ↔
      ['*', '/'] <:+ line.trimmed ∨ ['*'] <+: line.trimmed := by
    rw [Bool.or_eq_true, Line.endsComment, List.isSuffixOf_iff_suffix, headIs, beq_iff_eq,
      List.head?_eq_some_iff]
    exact or_congr_right (exists_congr fun rest => eq_comm)
  -- A line that begins with no comment neither begins with a block nor is one.
  have hno (hcode : ¬ ['/', '*'] <+: line.trimmed) :
      ¬ line.isWholeBlock = true ∧ ¬ line.startsBlock = true ∧ ¬ line.startsComment = true := by
    have hblock : ¬ line.startsBlock = true := fun hblock =>
      hcode (hcomment.mp (Line.startsComment_of_startsBlock hblock))
    exact ⟨fun h => hblock (hstarts.mpr (hwhole.mp h).starts), hblock, mt hcomment.mp hcode⟩
  rw [above?_eq_map, linesAbove_eq_append hline hlt,
    extent?_append_of_isPrelude hprelude ((isPrelude_eq_false_iff hline).mpr hends),
    List.reverse_reverse]
  cases h with
  | whole h => rw [if_pos (hwhole.mpr h), hindex, Option.map_some]
  | closedBelow hnot h hlast =>
    obtain ⟨closer, hfind, rfl⟩ := find?_linesBetween hlast
    rw [if_neg (mt hwhole.mp hnot), if_pos (hstarts.mpr h), hfind, hindex, Option.map_some,
      Option.map_some]
  | unclosed hnot h hnone =>
    rw [if_neg (mt hwhole.mp hnot), if_pos (hstarts.mpr h), List.find?_eq_none.mpr, Option.map_none,
      Option.map_none]
    intro l hl hcloser
    obtain ⟨hgt, hlower, hget⟩ := mem_linesBetween_iff.mp hl
    exact hnone _ hgt hlower ((hasCloser_eq_true_iff hget).mp hcloser)
  | otherComment hnot h =>
    rw [if_neg fun h => hnot (hwhole.mp h).starts, if_neg (mt hstarts.mp hnot),
      if_pos (hcomment.mpr h), Option.map_none]
  | openedAbove hcode h hfirst hopens =>
    obtain ⟨hnotWhole, hnotBlock, hnotComment⟩ := hno hcode
    obtain ⟨text, htext, _⟩ := id hopens
    obtain ⟨opener, hopener, rfl, _⟩ := exists_getElem?_annotate htext
    rw [if_neg hnotWhole, if_neg hnotBlock, if_neg hnotComment, if_pos (hinside.mpr h),
      (opener?_eq_some_iff hfirst).mpr ⟨hopens, hopener⟩, hindex, Option.map_some, Option.map_some]
  | unopened hcode h hnone =>
    obtain ⟨hnotWhole, hnotBlock, hnotComment⟩ := hno hcode
    have hopener : opener? (linesAbove lines nearest) = none := by
      rcases exists_isGreatest_or_forall_not nearest (BoundsComment lines) with ⟨first, hfirst⟩ | h
      · rw [Option.eq_none_iff_forall_ne_some]
        exact fun opener hopener => hnone first hfirst ((opener?_eq_some_iff hfirst).mp hopener).1
      · exact opener?_eq_none_of_forall h
    rw [if_neg hnotWhole, if_neg hnotBlock, if_neg hnotComment, if_pos (hinside.mpr h), hopener,
      Option.map_none, Option.map_none]
  | code hcode h =>
    obtain ⟨hnotWhole, hnotBlock, hnotComment⟩ := hno hcode
    rw [if_neg hnotWhole, if_neg hnotBlock, if_neg hnotComment, if_neg (mt hinside.mp h),
      Option.map_none]

theorem Location.above? (h : Location lines target block) : above? lines target = block := by
  cases h with
  | onlyPrelude hnone =>
    rw [above?_eq_map, extent?_eq_none_of_isPrelude, Option.map_none]
    intro line hline
    obtain ⟨hlt, hget⟩ := mem_linesAbove_iff.mp hline
    by_contra hno
    exact hnone _ hlt ((isPrelude_eq_false_iff hget).mp (by simpa using hno))
  | nearest hnearest hline hshows => exact hshows.above? hnearest hline

/-! ## Every declaration has its answer -/

theorem exists_shows (lines : List Text) (target nearest : Nat) (trimmed : Text) :
    ∃ block, Shows lines target nearest trimmed block := by
  by_cases hwhole : IsWhole trimmed
  · exact ⟨_, .whole hwhole⟩
  by_cases hstarts : ['/', '*', '*'] <+: trimmed
  · by_cases hcloses : ∃ index, nearest < index ∧ index < target ∧ Closes lines index
    · exact ⟨_, .closedBelow hwhole hstarts (isLeast_csInf hcloses)⟩
    · exact ⟨_, .unclosed hwhole hstarts fun index hgt hlt h => hcloses ⟨index, hgt, hlt, h⟩⟩
  by_cases hcomment : ['/', '*'] <+: trimmed
  · exact ⟨_, .otherComment hstarts hcomment⟩
  by_cases hinside : ['*', '/'] <:+ trimmed ∨ ['*'] <+: trimmed
  · by_cases hopens : ∃ first,
        IsGreatest {index | index < nearest ∧ BoundsComment lines index} first ∧
          OpensBlock lines first
    · obtain ⟨first, hfirst, hopens⟩ := hopens
      exact ⟨_, .openedAbove hcomment hinside hfirst hopens⟩
    · exact ⟨_, .unopened hcomment hinside fun first hfirst h => hopens ⟨first, hfirst, h⟩⟩
  · exact ⟨_, .code hcomment hinside⟩

theorem exists_location (lines : List Text) (target : Nat) :
    ∃ block, Location lines target block := by
  rcases exists_isGreatest_or_forall_not target (EndsPrelude lines) with ⟨nearest, hnearest⟩ | h
  · obtain ⟨line, hline, _⟩ := hnearest.1.2
    obtain ⟨block, hshows⟩ := exists_shows lines target nearest (Text.trim line)
    exact ⟨block, .nearest hnearest hline hshows⟩
  · exact ⟨none, .onlyPrelude h⟩

/-- The walk upward finds the block that stands over the declaration, and none if none does. A line
behind the end of the file counts as the line after its last. -/
theorem above?_eq_iff (lines : List Text) (target : Nat) (block : Option DocBlock) :
    above? lines target = block ↔ Location lines (min target lines.length) block := by
  rw [← above?_min]
  constructor
  · rintro rfl
    obtain ⟨block, hlocation⟩ := exists_location lines (min target lines.length)
    rwa [hlocation.above?]
  · exact Location.above?

end ChangeReview.DocBlock
