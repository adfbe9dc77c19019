import ChangeReview.Proofs.Comment.Walk

/-!
# A block above its declaration

`DocBlock.IsPreludeLine` describes the lines that may stand between a block and its declaration, and
`DocBlock.IsBlock` the lines of a block with an opening line, starred lines and a closing line.
`DocBlock.above?_block` says that the walk upward finds such a block, whatever stands above it.
-/

namespace ChangeReview.DocBlock

/-- A blank line, or a decorator that opens no comment. -/
inductive IsPreludeLine : Text → Prop
  | blank {line : Text} (hblank : IsBlankText line) : IsPreludeLine line
  | decorator {indent name rest : Text} {mark : Char} (hindent : IsBlankText indent)
      (hname : name ≠ [])
      (hparts : ∀ c ∈ name, (isLetterOrNumber c || c == '_' || c == '$') = true)
      (hmark : mark = '(' ∨ mark = '{')
      (hcode : ¬ ['/', '*'] <:+: indent ++ '@' :: (name ++ mark :: rest)) :
      IsPreludeLine (indent ++ '@' :: (name ++ mark :: rest))

/-- The lines of a block that opens and closes on lines of its own. -/
structure IsBlock (opener : Text) (middle : List Text) (closer : Text) : Prop where
  /-- The first line opens the block. -/
  opener : Text.trim opener = ['/', '*', '*']
  /-- The lines between begin with a star and do not close the block. -/
  middle : ∀ line ∈ middle, headIs '*' (Text.trim line) = true ∧ ¬ ['*', '/'] <:+: line
  /-- The last line closes the block. -/
  closer : Text.trim closer = ['*', '/']

/-! ## The prelude -/

theorem isDecorator_append {name rest : Text} {mark : Char} (hname : name ≠ [])
    (hparts : ∀ c ∈ name, (isLetterOrNumber c || c == '_' || c == '$') = true)
    (hmark : mark = '(' ∨ mark = '{') : isDecorator ('@' :: (name ++ mark :: rest)) = true := by
  have hstop : (isLetterOrNumber mark || mark == '_' || mark == '$') = false := by
    rcases hmark with rfl | rfl <;> decide
  have htrim : Text.trimStart (mark :: rest) = mark :: rest := by
    rcases hmark with rfl | rfl <;> rfl
  have hopens : (headIs '(' (mark :: rest) || headIs '{' (mark :: rest)) = true := by
    rcases hmark with rfl | rfl <;> rfl
  have hhead : (name ++ mark :: rest).head?.any
      (fun c => isLetterOrNumber c || c == '_' || c == '$') = true := by
    obtain ⟨c, others, rfl⟩ := List.exists_cons_of_ne_nil hname
    exact hparts c List.mem_cons_self
  simp only [isDecorator]
  rw [List.dropWhile_append_of_pos hparts, List.dropWhile_cons_of_neg (by simp [hstop]), htrim,
    hhead, hopens]
  rfl

theorem IsPreludeLine.isPrelude {line : Text} (h : IsPreludeLine line) (index : Nat) :
    (⟨index, Text.trim line, false⟩ : Line).isPrelude = true := by
  cases h with
  | blank hblank => simp [Line.isPrelude, Text.trim_eq_nil_iff.mpr hblank]
  | @decorator indent name rest mark hindent hname hparts hmark hcode =>
    have hcore : IsTrimmed (['@'] ++ name ++ [mark]) := by
      have hend : isBlank mark = false := by rcases hmark with rfl | rfl <;> rfl
      exact Text.isTrimmed_append (isTrimmed_singleton rfl) (isTrimmed_singleton hend) (by simp)
        (by simp) name
    obtain ⟨kept, hkept⟩ := Text.exists_trim_append hcore (by simp) rest
    have hline : Text.trim (indent ++ '@' :: (name ++ mark :: rest)) =
        '@' :: (name ++ mark :: kept) := by
      rw [Text.trim_append_left hindent]
      simpa using hkept
    simp [Line.isPrelude, hline, isDecorator_append hname hparts hmark]

theorem IsPreludeLine.openAfter {line : Text} (h : IsPreludeLine line) :
    Comment.openAfter false line = false := by
  refine Comment.openAfter_false ?_
  cases h with
  | blank hblank =>
    intro hin
    exact absurd (hblank '/' (hin.subset List.mem_cons_self)) (by decide)
  | decorator hindent hname hparts hmark hcode => exact hcode

theorem isPrelude_of_mem_annotateFrom {lines : List Text}
    (h : ∀ line ∈ lines, IsPreludeLine line) (index : Nat) :
    ∀ line ∈ annotateFrom index false lines, line.isPrelude = true := by
  induction lines generalizing index with
  | nil => simp [annotateFrom]
  | cons line lines ih =>
    have hline := h line List.mem_cons_self
    rw [annotateFrom, hline.openAfter]
    exact List.forall_mem_cons.mpr
      ⟨hline.isPrelude index, ih (fun l hl => h l (List.mem_cons_of_mem _ hl)) _⟩

/-! ## The block -/

namespace IsBlock

variable {opener closer : Text} {middle : List Text} (h : IsBlock opener middle closer)
include h

/-- Whether or not a comment is open above the block, one is open inside it. -/
theorem openAfter_opener (isOpen : Bool) : Comment.openAfter isOpen opener = true := by
  have hblock : (⟨0, Text.trim opener, isOpen⟩ : Line).startsBlock = true := by
    rw [h.opener]
    rfl
  have hcloser : (⟨0, Text.trim opener, isOpen⟩ : Line).hasCloser = false := by
    rw [h.opener]
    rfl
  exact openAfter_of_startsBlock hblock (hasCloser_eq_false_iff.mp hcloser) isOpen

theorem openAfterLines_middle : Comment.openAfterLines true middle = true := by
  have hlines := fun line hline => (h.middle line hline).2
  clear h
  induction middle with
  | nil => rfl
  | cons line middle ih =>
    rw [Comment.openAfterLines_cons, Comment.openAfter_true (hlines line List.mem_cons_self)]
    exact ih fun l hl => hlines l (List.mem_cons_of_mem _ hl)

theorem openAfter_closer : Comment.openAfter true closer = false := by
  obtain ⟨lead, tail, hcloser, hlead, htail, _⟩ := Text.exists_trim closer
  rw [h.closer] at hcloser
  rw [hcloser]
  exact Comment.openAfter_of_closer hlead htail

/-- The lines of the block as the walk sees them, and the first line below it outside comments. -/
theorem annotateFrom_append (index : Nat) (isOpen : Bool) (lower : List Text) :
    annotateFrom index isOpen (opener :: (middle ++ closer :: lower)) =
      ⟨index, Text.trim opener, isOpen⟩ :: (annotateFrom (index + 1) true middle ++
        ⟨index + 1 + middle.length, Text.trim closer, true⟩ ::
          annotateFrom (index + 1 + middle.length + 1) false lower) := by
  rw [annotateFrom, h.openAfter_opener, DocBlock.annotateFrom_append, h.openAfterLines_middle,
    annotateFrom, h.openAfter_closer]

end IsBlock

/-- The walk inside a block passes over lines that neither open nor close a comment. -/
theorem opener?_skip {inside : List Line}
    (h : ∀ line ∈ inside, line.hasCloser = false ∧ line.startsComment = false)
    (above : List Line) : opener? (inside ++ above) = opener? above := by
  induction inside with
  | nil => rfl
  | cons line inside ih =>
    obtain ⟨hcloser, hcomment⟩ := h line List.mem_cons_self
    have hblock : line.startsBlock = false := by
      by_contra hblock
      rw [Line.startsComment_of_startsBlock (by simpa using hblock)] at hcomment
      cases hcomment
    rw [List.cons_append, opener?, hcloser, hblock, hcomment]
    exact ih fun l hl => h l (List.mem_cons_of_mem _ hl)

theorem isInside_of_mem_annotateFrom {lines : List Text}
    (h : ∀ line ∈ lines, headIs '*' (Text.trim line) = true ∧ ¬ ['*', '/'] <:+: line)
    (index : Nat) (isOpen : Bool) :
    ∀ line ∈ annotateFrom index isOpen lines,
      line.hasCloser = false ∧ line.startsComment = false := by
  induction lines generalizing index isOpen with
  | nil => simp [annotateFrom]
  | cons line lines ih =>
    obtain ⟨hstar, hno⟩ := h line List.mem_cons_self
    refine List.forall_mem_cons.mpr
      ⟨⟨hasCloser_eq_false_iff.mpr hno, ?_⟩, ih (fun l hl => h l (List.mem_cons_of_mem _ hl)) _ _⟩
    obtain ⟨rest, hrest⟩ := List.head?_eq_some_iff.mp (eq_of_beq hstar)
    rw [Line.startsComment, hrest]
    rfl

/-- A closing line leads to the nearest opening line above it. -/
theorem extent?_closer {below above : List Line} {closer opener : Line}
    (hbelow : ∀ line ∈ below, line.isPrelude = true) (hcloser : closer.trimmed = ['*', '/'])
    (hopener : opener? above = some opener) :
    extent? (below ++ closer :: above) = some (.multiLine, opener.index, closer.index) := by
  have hprelude : closer.isPrelude = false := by
    rw [Line.isPrelude, hcloser, show isDecorator ['*', '/'] = false from rfl]
    simp
  have hblock : closer.startsBlock = false := by rw [Line.startsBlock, hcloser]; rfl
  have hcomment : closer.startsComment = false := by rw [Line.startsComment, hcloser]; rfl
  have hends : closer.endsComment = true := by rw [Line.endsComment, hcloser]; rfl
  rw [extent?_append_of_isPrelude hbelow hprelude]
  simp [Line.isWholeBlock, hblock, hcomment, hends, hopener]

variable {upper middle prelude : List Text} {opener closer : Text}

/-- What the walk upward sees over a declaration: the prelude, the block from its last line to its
first, and whatever stands above. -/
theorem reverse_take_annotate (hblock : IsBlock opener middle closer) (lower : List Text) :
    ((annotate (upper ++ (opener :: (middle ++ [closer])) ++ prelude ++ lower)).take
      (upper.length + (opener :: (middle ++ [closer])).length + prelude.length)).reverse =
      (annotateFrom (upper.length + 1 + middle.length + 1) false prelude).reverse ++
        ⟨upper.length + 1 + middle.length, Text.trim closer, true⟩ ::
          ((annotateFrom (upper.length + 1) true middle).reverse ++
            ⟨upper.length, Text.trim opener, Comment.openAfterLines false upper⟩ ::
              (annotateFrom 0 false upper).reverse) := by
  have hlength : upper.length + (opener :: (middle ++ [closer])).length + prelude.length =
      (upper ++ (opener :: (middle ++ [closer])) ++ prelude).length := by
    simp only [List.length_append]
  have hlines : upper ++ (opener :: (middle ++ [closer])) ++ prelude =
      upper ++ (opener :: (middle ++ closer :: prelude)) := by
    simp only [List.append_assoc, List.cons_append, List.nil_append]
  rw [annotate_eq, annotateFrom_append, hlength,
    ← length_annotateFrom 0 false (upper ++ (opener :: (middle ++ [closer])) ++ prelude),
    List.take_left, hlines, annotateFrom_append, Nat.zero_add, hblock.annotateFrom_append]
  simp only [List.reverse_append, List.reverse_cons, List.append_assoc, List.cons_append,
    List.nil_append]

/-- The walk upward finds the block over a prelude, whatever stands above the block. -/
theorem above?_block (hblock : IsBlock opener middle closer)
    (hprelude : ∀ line ∈ prelude, IsPreludeLine line) (lower : List Text) :
    above? (upper ++ (opener :: (middle ++ [closer])) ++ prelude ++ lower)
        (upper.length + (opener :: (middle ++ [closer])).length + prelude.length) =
      some
        { shape := .multiLine
          first := upper.length
          last := upper.length + 1 + middle.length
          text := Text.joinWith ['\n'] (opener :: (middle ++ [closer])) } := by
  have hinside := isInside_of_mem_annotateFrom hblock.middle (upper.length + 1) true
  -- From the closing line up, the walk passes the starred lines and stops at the opening one.
  have hopener : opener? ((annotateFrom (upper.length + 1) true middle).reverse ++
      ⟨upper.length, Text.trim opener, Comment.openAfterLines false upper⟩ ::
        (annotateFrom 0 false upper).reverse) =
      some ⟨upper.length, Text.trim opener, Comment.openAfterLines false upper⟩ := by
    rw [opener?_skip fun line hline => hinside line (List.mem_reverse.mp hline), opener?,
      Line.hasCloser, Line.startsBlock, hblock.opener]
    rfl
  have hbelow := isPrelude_of_mem_annotateFrom hprelude (upper.length + 1 + middle.length + 1)
  have hextent := @extent?_closer _ _
    ⟨upper.length + 1 + middle.length, Text.trim closer, true⟩ _
    (fun line hline => hbelow line (List.mem_reverse.mp hline)) hblock.closer hopener
  have htext : ((upper ++ (opener :: (middle ++ [closer])) ++ prelude ++ lower).take
      (upper.length + 1 + middle.length + 1)).drop upper.length =
      opener :: (middle ++ [closer]) := by
    have hcount : upper.length + 1 + middle.length + 1 =
        (upper ++ (opener :: (middle ++ [closer]))).length := by
      simp only [List.length_append, List.length_cons, List.length_nil]
      omega
    rw [List.append_assoc _ prelude, hcount, List.take_left, List.drop_left]
  rw [above?, reverse_take_annotate hblock, hextent, Option.map_some]
  simp only [htext]

end ChangeReview.DocBlock
