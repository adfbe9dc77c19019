import ChangeReview.Declaration.Recognition
import ChangeReview.Proofs.Comment.Walk
import ChangeReview.Proofs.Text.Name
import Mathlib.Data.List.Chain

/-!
# Which block belongs to which declaration

The walk upward comes to a block by one of three routes, `DocBlock.Route`. What a line hands down
to the next one, `DocBlock.Line.Precedes`, shows that no route passes over code: from the first line
of a block down to the declaration each line is prelude, begins inside a comment or opens the block.
`DocBlock.above?_disjoint` concludes that two declarations never share a block.
-/

namespace ChangeReview

/-! ## Lines that begin a declaration -/

namespace Declaration

theorem startsIdentifier_of_takeIdentifier {text name rest : Text}
    (h : takeIdentifier text = some (name, rest)) : startsIdentifier text = true := by
  rw [takeIdentifier, takeName] at h
  split at h
  · assumption
  · cases h

theorem startsIdentifier_of_splitWords {text name rest : Text}
    (h : takeIdentifier (splitWords text).2 = some (name, rest)) :
    startsIdentifier text = true := by
  rw [splitWords] at h
  split at h
  · exact startsIdentifier_of_takeIdentifier h
  · next word next hword =>
    simp only [leadingWord?, Option.bind_eq_bind, Option.bind_eq_some_iff] at hword
    obtain ⟨_, htake, _⟩ := hword
    exact startsIdentifier_of_takeIdentifier htake

theorem startsIdentifier_of_ofLine? {line : Text} {lineNumber : Nat} {declaration : Declaration}
    (h : ofLine? line lineNumber = some declaration) :
    startsIdentifier (Text.trim line) = true := by
  -- Of both kinds, a declaration is read from words and a name after them.
  simp only [ofLine?, Option.orElse_eq_orElse, Option.orElse_eq_or, Option.or_eq_some_iff] at h
  rcases h with h | ⟨_, h⟩
  · simp only [method?, Option.bind_eq_bind, Option.bind_eq_some_iff] at h
    obtain ⟨_, _, _, htake, _⟩ := h
    exact startsIdentifier_of_splitWords htake
  · simp only [reactive?, Option.bind_eq_bind, Option.bind_eq_some_iff] at h
    obtain ⟨_, _, _, htake, _⟩ := h
    exact startsIdentifier_of_splitWords htake

end Declaration

namespace DocBlock

/-- A line that begins outside block comments and begins a declaration. -/
structure DeclaresAt (lines : List Text) (target : Nat) : Prop where
  outside : (Comment.startsOpen lines)[target]? = some false
  declares : ∃ line, lines[target]? = some line ∧
    (Declaration.ofLine? line (target + 1)).isSome = true

/-- How a block stands above the declaration that it belongs to. -/
structure BelongsTo (lines : List Text) (block : DocBlock) (target : Nat) : Prop where
  first_le_last : block.first ≤ block.last
  last_lt : block.last < target
  /-- Between the two are blank lines, and decorators outside comments. -/
  prelude : ∀ index line, block.last < index → index < target → lines[index]? = some line →
    IsBlankText line ∨
      (Comment.startsOpen lines)[index]? = some false ∧ isDecorator (Text.trim line) = true
  /-- A comment closes on the block's last line. -/
  closed : ∃ line, lines[block.last]? = some line ∧ ['*', '/'] <:+: line

/-! ## From a line to the next -/

namespace Line

/-- What a line hands down to the next one: its index, and a comment that it leaves open. -/
structure Precedes (upper lower : Line) : Prop where
  index : lower.index = upper.index + 1
  startsOpen : upper.hasCloser = false → upper.startsOpen = true ∨ upper.startsBlock = true →
    lower.startsOpen = true

theorem hasCloser_of_endsComment {line : Line} (h : line.endsComment = true) :
    line.hasCloser = true := by
  rw [hasCloser, Text.contains_iff_infix]
  exact (List.isSuffixOf_iff_suffix.mp h).isInfix

theorem hasCloser_of_trimmed_eq_nil {line : Line} (h : line.trimmed = []) :
    line.hasCloser = false := by
  rw [hasCloser, h]
  rfl

/-- Inside a comment no line but a blank one is prelude. -/
theorem trimmed_eq_nil_of_isPrelude {line : Line} (hprelude : line.isPrelude = true)
    (hopen : line.startsOpen = true) : line.trimmed = [] := by
  simpa [isPrelude, hopen] using hprelude

theorem not_prelude_of_startsIdentifier {line : Line}
    (h : startsIdentifier line.trimmed = true) :
    line.isPrelude = false ∧ line.startsBlock = false := by
  obtain ⟨index, trimmed, startsOpen⟩ := line
  cases trimmed with
  | nil => cases h
  | cons c rest =>
    have hstart : isIdentifierStart c = true := h
    -- A decorator begins with another character, and so does a block.
    have hdecorator : isDecorator (c :: rest) = false := by
      refine isDecorator_eq_false fun ⟨after, hafter⟩ => ?_
      rw [← (List.cons.inj hafter).1] at hstart
      cases hstart
    refine ⟨by simp [isPrelude, hdecorator], ?_⟩
    rw [startsBlock, ← Bool.not_eq_true, List.isPrefixOf_iff_prefix]
    rintro ⟨after, hafter⟩
    rw [← (List.cons.inj hafter).1] at hstart
    cases hstart

end Line

theorem isChain_annotateFrom (index : Nat) (isOpen : Bool) (lines : List Text) :
    (annotateFrom index isOpen lines).IsChain Line.Precedes := by
  induction lines generalizing index isOpen with
  | nil => exact .nil
  | cons line lines ih =>
    cases lines with
    | nil => exact .singleton _
    | cons next lines =>
      refine List.isChain_cons_cons.mpr ⟨⟨rfl, fun hcloser hopen => ?_⟩, ih ..⟩
      -- Without an end on the upper line, the lower one begins inside the comment.
      have hno := hasCloser_eq_false_iff.mp hcloser
      rcases hopen with hopen | hblock
      · change isOpen = true at hopen
        subst hopen
        exact Comment.openAfter_true hno
      · exact openAfter_of_startsBlock hblock hno isOpen

/-- Lines of a file from one of them upward. -/
def IsUpward (lines : List Line) : Prop :=
  lines.IsChain fun lower upper => upper.Precedes lower

theorem isUpward_cons_cons {line next : Line} {above : List Line} :
    IsUpward (line :: next :: above) ↔ next.Precedes line ∧ IsUpward (next :: above) :=
  List.isChain_cons_cons

theorem IsUpward.of_append (below : List Line) {above : List Line}
    (h : IsUpward (below ++ above)) : IsUpward above := List.IsChain.right_of_append h

theorem IsUpward.index_lt {line : Line} {above : List Line} (h : IsUpward (line :: above)) :
    ∀ l ∈ above, l.index < line.index := by
  induction above generalizing line with
  | nil => simp
  | cons next above ih =>
    obtain ⟨hnext, hrest⟩ := isUpward_cons_cons.mp h
    have hlt : next.index < line.index := by
      have := hnext.index
      omega
    exact List.forall_mem_cons.mpr ⟨hlt, fun l hl => (ih hrest l hl).trans hlt⟩

/-- A comment that is open on a line without an end reaches through the prelude below. -/
theorem IsUpward.startsOpen_of_prelude {below line : Line} {prelude rest : List Line}
    (h : IsUpward (below :: (prelude ++ line :: rest)))
    (hprelude : ∀ l ∈ prelude, l.isPrelude = true) (hcloser : line.hasCloser = false)
    (hopen : line.startsOpen = true) : below.startsOpen = true := by
  induction prelude generalizing below with
  | nil => exact (isUpward_cons_cons.mp h).1.startsOpen hcloser (.inl hopen)
  | cons next prelude ih =>
    obtain ⟨hnext, hrest⟩ := isUpward_cons_cons.mp h
    have hnextOpen := ih hrest fun l hl => hprelude l (List.mem_cons_of_mem _ hl)
    -- A line of prelude inside a comment is blank, so the comment does not end there.
    have hblank :=
      Line.trimmed_eq_nil_of_isPrelude (hprelude next List.mem_cons_self) hnextOpen
    exact hnext.startsOpen (Line.hasCloser_of_trimmed_eq_nil hblank) (.inl hnextOpen)

/-- Up to the opening line that the walk finds, every line begins inside the comment. -/
theorem IsUpward.startsOpen_of_opener? {line opener : Line} {above : List Line}
    (h : IsUpward (line :: above)) (hopener : opener? above = some opener) :
    opener ∈ above ∧ line.startsOpen = true ∧
      ∀ l ∈ above, opener.index ≤ l.index → l.startsOpen = true ∨ l.startsBlock = true := by
  induction above generalizing line with
  | nil => cases hopener
  | cons next above ih =>
    obtain ⟨hnext, hrest⟩ := isUpward_cons_cons.mp h
    rw [opener?] at hopener
    split_ifs at hopener with hcloser hblock hcomment
    · -- The block opens on this line, and all lines above have smaller indices.
      obtain rfl := Option.some.inj hopener
      refine ⟨List.mem_cons_self, hnext.startsOpen (by simpa using hcloser) (.inr hblock), ?_⟩
      refine List.forall_mem_cons.mpr ⟨fun _ => .inr hblock, fun l hl hle => ?_⟩
      have := hrest.index_lt l hl
      omega
    · obtain ⟨hmem, hopen, hinside⟩ := ih hrest hopener
      exact ⟨List.mem_cons_of_mem _ hmem,
        hnext.startsOpen (by simpa using hcloser) (.inl hopen),
        List.forall_mem_cons.mpr ⟨fun _ => .inl hopen, hinside⟩⟩

/-! ## The three routes to a block -/

/-- How the walk comes to the lines `first` to `last` of a block from `line`, the nearest line over
the prelude, with `above` over it. -/
inductive Route (prelude : List Line) (line : Line) (above : List Line) : Nat → Nat → Prop
  /-- The line holds the whole block. -/
  | whole (hwhole : line.isWholeBlock = true) : Route prelude line above line.index line.index
  /-- The line opens the block, and a line of the prelude closes it. -/
  | forward {closer : Line} (hblock : line.startsBlock = true) (hmem : closer ∈ prelude)
      (hcloser : closer.hasCloser = true) : Route prelude line above line.index closer.index
  /-- The line ends the block, or seems to be inside it, and a line above opens it. -/
  | backward {opener : Line} (hends : line.endsComment = true ∨ headIs '*' line.trimmed = true)
      (hopener : opener? above = some opener) : Route prelude line above opener.index line.index

theorem exists_route_of_extent? {above : List Line} {shape : Shape} {first last : Nat}
    (h : extent? above = some (shape, first, last)) :
    ∃ prelude line rest, above = prelude ++ line :: rest ∧
      (∀ l ∈ prelude, l.isPrelude = true) ∧ Route prelude line rest first last := by
  have hparts := List.takeWhile_append_dropWhile (p := fun l : Line => l.isPrelude) (l := above)
  rw [extent?] at h
  cases hdrop : above.dropWhile (·.isPrelude) with
  | nil =>
    rw [hdrop] at h
    cases h
  | cons line rest =>
    rw [hdrop] at h hparts
    refine ⟨above.takeWhile (·.isPrelude), line, rest, hparts.symm,
      List.all_eq_true.mp List.all_takeWhile, ?_⟩
    dsimp only at h
    split_ifs at h with hwhole hblock hcomment hends
    · simp only [Option.some.injEq, Prod.mk.injEq] at h
      obtain ⟨_, rfl, rfl⟩ := h
      exact .whole hwhole
    · simp only [Option.map_eq_some_iff, Prod.mk.injEq] at h
      obtain ⟨closer, hfind, _, rfl, rfl⟩ := h
      exact .forward hblock (List.mem_reverse.mp (List.mem_of_find?_eq_some hfind))
        (List.find?_some hfind)
    · simp only [Option.map_eq_some_iff, Prod.mk.injEq] at h
      obtain ⟨opener, hopener, _, rfl, rfl⟩ := h
      exact .backward (by simpa using hends) hopener

/-- What the lines `first` to `last` are to a declaration, with `above` over it. -/
structure Spans (declaration : Line) (above : List Line) (first last : Nat) : Prop where
  first_le_last : first ≤ last
  last_lt : last < declaration.index
  prelude : ∀ l ∈ above, last < l.index → l.isPrelude = true
  /-- No line of the block or below it is code. -/
  covered : ∀ l ∈ above, first ≤ l.index →
    l.isPrelude = true ∨ l.startsOpen = true ∨ l.startsBlock = true
  closed : declaration.startsOpen = false → ∃ l ∈ above, l.index = last ∧ l.hasCloser = true

theorem Route.spans {declaration line : Line} {prelude rest : List Line} {first last : Nat}
    (h : Route prelude line rest first last)
    (hprelude : ∀ l ∈ prelude, l.isPrelude = true)
    (hup : IsUpward (declaration :: (prelude ++ line :: rest))) :
    Spans declaration (prelude ++ line :: rest) first last := by
  have hline : IsUpward (line :: rest) := IsUpward.of_append (declaration :: prelude) hup
  have hmem : line ∈ prelude ++ line :: rest := by simp
  -- Seen from the line over the prelude, a line is below it, itself or above it.
  have hcases (l : Line) (hl : l ∈ prelude ++ line :: rest) :
      l.isPrelude = true ∨ l = line ∨ l ∈ rest ∧ l.index < line.index := by
    rcases List.mem_append.mp hl with hl | hl
    · exact .inl (hprelude l hl)
    · rcases List.mem_cons.mp hl with rfl | hl
      · exact .inr (.inl rfl)
      · exact .inr (.inr ⟨hl, hline.index_lt l hl⟩)
  have hbelow (l : Line) (hl : l ∈ prelude ++ line :: rest) (hlt : line.index < l.index) :
      l.isPrelude = true := by
    rcases hcases l hl with h | rfl | ⟨_, h⟩
    · exact h
    · omega
    · omega
  cases h with
  | whole hwhole =>
    simp only [Line.isWholeBlock, Bool.and_eq_true] at hwhole
    refine ⟨le_rfl, hup.index_lt line hmem, hbelow, fun l hl hle => ?_, fun _ => ?_⟩
    · rcases hcases l hl with h | rfl | ⟨_, h⟩
      · exact .inl h
      · exact .inr (.inr hwhole.1.2)
      · omega
    · exact ⟨line, hmem, rfl, Line.hasCloser_of_endsComment hwhole.2⟩
  | @forward closer hblock hcloserMem hcloser =>
    have hmemCloser : closer ∈ prelude ++ line :: rest := List.mem_append_left _ hcloserMem
    -- The closing line is one of the prelude, and that stands below the opening line.
    have hle : line.index ≤ closer.index := by
      obtain ⟨lower, upper, rfl⟩ := List.append_of_mem hcloserMem
      rw [List.append_assoc] at hup
      exact ((IsUpward.of_append (declaration :: lower) hup).index_lt line (by simp)).le
    refine ⟨hle, hup.index_lt closer hmemCloser, fun l hl hlt => hbelow l hl (by omega),
      fun l hl hle => ?_, fun _ => ⟨closer, hmemCloser, rfl, hcloser⟩⟩
    rcases hcases l hl with h | rfl | ⟨_, h⟩
    · exact .inl h
    · exact .inr (.inr hblock)
    · omega
  | @backward opener hends hopener =>
    obtain ⟨hopenerMem, hopen, hinside⟩ := hline.startsOpen_of_opener? hopener
    refine ⟨(hline.index_lt opener hopenerMem).le, hup.index_lt line hmem, hbelow,
      fun l hl hle => ?_, fun houtside => ⟨line, hmem, rfl, ?_⟩⟩
    · rcases hcases l hl with h | rfl | ⟨h, _⟩
      · exact .inl h
      · exact .inr (.inl hopen)
      · exact .inr (hinside l h hle)
    · -- Without an end on this line the comment would reach the declaration.
      by_contra hcloser
      have := hup.startsOpen_of_prelude hprelude (by simpa using hcloser) hopen
      rw [houtside] at this
      cases this

/-! ## Blocks of a file -/

theorem getElem?_annotate_eq_some_iff {lines : List Text} {index : Nat} {line : Line} :
    (annotate lines)[index]? = some line ↔
      line.index = index ∧ (∃ text, lines[index]? = some text ∧ line.trimmed = Text.trim text) ∧
        (Comment.startsOpen lines)[index]? = some line.startsOpen := by
  simp only [annotate, List.getElem?_map, List.getElem?_zipIdx, Option.map_map,
    Option.map_eq_some_iff, List.getElem?_zip_eq_some, Prod.exists]
  constructor
  · rintro ⟨text, isOpen, ⟨htext, hopen⟩, rfl⟩
    exact ⟨Nat.zero_add index, ⟨text, htext, rfl⟩, hopen⟩
  · rintro ⟨rfl, ⟨text, htext, htrimmed⟩, hopen⟩
    refine ⟨text, line.startsOpen, ⟨htext, hopen⟩, ?_⟩
    simp [← htrimmed]

theorem exists_getElem?_annotate {lines : List Text} {index : Nat} {text : Text}
    (h : lines[index]? = some text) :
    ∃ line, (annotate lines)[index]? = some line ∧ line.index = index ∧
      line.trimmed = Text.trim text := by
  have hlength : index < (annotate lines).length := by
    rw [annotate_eq, length_annotateFrom]
    exact (List.getElem?_eq_some_iff.mp h).1
  have hget := List.getElem?_eq_getElem hlength
  obtain ⟨hindex, ⟨text', htext', htrimmed⟩, _⟩ := getElem?_annotate_eq_some_iff.mp hget
  rw [h] at htext'
  obtain rfl := Option.some.inj htext'
  exact ⟨_, hget, hindex, htrimmed⟩

/-- The lines above a declaration, as the walk upward sees them. -/
def linesAbove (lines : List Text) (target : Nat) : List Line :=
  ((annotate lines).take target).reverse

theorem mem_linesAbove_iff {lines : List Text} {target : Nat} {line : Line} :
    line ∈ linesAbove lines target ↔
      line.index < target ∧ (annotate lines)[line.index]? = some line := by
  rw [linesAbove, List.mem_reverse, List.mem_iff_getElem?]
  constructor
  · rintro ⟨index, hget⟩
    rw [List.getElem?_take] at hget
    split at hget
    · next hlt =>
      obtain ⟨rfl, _⟩ := getElem?_annotate_eq_some_iff.mp hget
      exact ⟨hlt, hget⟩
    · cases hget
  · rintro ⟨hlt, hget⟩
    exact ⟨line.index, by rw [List.getElem?_take, if_pos hlt, hget]⟩

theorem isUpward_linesAbove {lines : List Text} {target : Nat} {line : Line}
    (h : (annotate lines)[target]? = some line) :
    IsUpward (line :: linesAbove lines target) := by
  have hlines : line :: linesAbove lines target =
      ((annotate lines).take (target + 1)).reverse := by
    rw [List.take_add_one, h, List.reverse_append]
    rfl
  rw [hlines, IsUpward, List.isChain_reverse, annotate_eq]
  exact (isChain_annotateFrom 0 false lines).take _

theorem spans_of_above? {lines : List Text} {target : Nat} {block : DocBlock} {line : Line}
    (hline : (annotate lines)[target]? = some line) (h : above? lines target = some block) :
    Spans line (linesAbove lines target) block.first block.last := by
  simp only [above?, Option.map_eq_some_iff, Prod.exists] at h
  obtain ⟨shape, first, last, hextent, rfl⟩ := h
  have hup := isUpward_linesAbove hline
  obtain ⟨prelude, upper, rest, habove, hprelude, hroute⟩ := exists_route_of_extent? hextent
  change linesAbove lines target = _ at habove
  rw [habove] at hup ⊢
  exact hroute.spans hprelude hup

namespace DeclaresAt

variable {lines : List Text} {target : Nat} (h : DeclaresAt lines target)
include h

/-- A line that declares is code. -/
theorem exists_line : ∃ line, (annotate lines)[target]? = some line ∧ line.index = target ∧
    line.isPrelude = false ∧ line.startsOpen = false ∧ line.startsBlock = false := by
  obtain ⟨text, htext, hdeclares⟩ := h.declares
  obtain ⟨declaration, hdeclaration⟩ := Option.isSome_iff_exists.mp hdeclares
  obtain ⟨line, hline, hindex, htrimmed⟩ := exists_getElem?_annotate htext
  obtain ⟨_, _, hopen⟩ := getElem?_annotate_eq_some_iff.mp hline
  rw [h.outside, Option.some.injEq] at hopen
  have hname := Declaration.startsIdentifier_of_ofLine? hdeclaration
  rw [← htrimmed] at hname
  obtain ⟨hprelude, hblock⟩ := Line.not_prelude_of_startsIdentifier hname
  exact ⟨line, hline, hindex, hprelude, hopen.symm, hblock⟩

/-- The block of a declaration is closed, and nothing but prelude stands below it. -/
theorem belongsTo {block : DocBlock} (habove : above? lines target = some block) :
    BelongsTo lines block target := by
  obtain ⟨line, hline, hindex, _, houtside, _⟩ := h.exists_line
  have hspans := spans_of_above? hline habove
  refine ⟨hspans.first_le_last, hindex ▸ hspans.last_lt, fun index text hlast hlt htext => ?_, ?_⟩
  · obtain ⟨between, hbetween, rfl, htrimmed⟩ := exists_getElem?_annotate htext
    obtain ⟨_, _, hopen⟩ := getElem?_annotate_eq_some_iff.mp hbetween
    have hprelude := hspans.prelude between (mem_linesAbove_iff.mpr ⟨hlt, hbetween⟩) hlast
    simp only [Line.isPrelude, Bool.or_eq_true, List.isEmpty_iff, Bool.and_eq_true,
      Bool.not_eq_true'] at hprelude
    rw [htrimmed] at hprelude
    rcases hprelude with hblank | ⟨hcode, hdecorator⟩
    · exact .inl (Text.trim_eq_nil_iff.mp hblank)
    · exact .inr ⟨hcode ▸ hopen, hdecorator⟩
  · obtain ⟨closer, hmem, hlast, hcloser⟩ := hspans.closed houtside
    obtain ⟨_, hget⟩ := mem_linesAbove_iff.mp hmem
    obtain ⟨_, ⟨text, htext, htrimmed⟩, _⟩ := getElem?_annotate_eq_some_iff.mp hget
    rw [hlast] at htext
    refine ⟨text, htext, ?_⟩
    rw [Line.hasCloser, htrimmed, Text.contains_iff_infix] at hcloser
    exact (Text.infix_trim_iff (by decide) (by decide) rfl text).mp hcloser

/-- A block below a declaration begins below it. -/
theorem lt_first {lower : Nat} (hlt : target < lower) (hlower : DeclaresAt lines lower)
    {block : DocBlock} (habove : above? lines lower = some block) : target < block.first := by
  obtain ⟨line, hline, hindex, hprelude, houtside, hblock⟩ := h.exists_line
  obtain ⟨lowerLine, hlowerLine, _⟩ := hlower.exists_line
  have hspans := spans_of_above? hlowerLine habove
  have hmem : line ∈ linesAbove lines lower := by
    rw [mem_linesAbove_iff, hindex]
    exact ⟨hlt, hline⟩
  -- Otherwise the upper declaration is a line of the block, or stands between it and the lower one.
  by_contra hle
  have hcovered := hspans.covered line hmem (by omega)
  simp [hprelude, houtside, hblock] at hcovered

end DeclaresAt

/-- Of two declarations outside comments, the block of the first ends before the block of the second
begins, and each block is closed and parted from its declaration by prelude only. -/
theorem above?_disjoint {lines : List Text} {upper lower : Nat} (hlt : upper < lower)
    (hupper : DeclaresAt lines upper) (hlower : DeclaresAt lines lower)
    {upperBlock lowerBlock : DocBlock} (hupperBlock : above? lines upper = some upperBlock)
    (hlowerBlock : above? lines lower = some lowerBlock) :
    upperBlock.last < lowerBlock.first ∧ BelongsTo lines upperBlock upper ∧
      BelongsTo lines lowerBlock lower := by
  have hbelongs := hupper.belongsTo hupperBlock
  have hfirst := hupper.lt_first hlt hlower hlowerBlock
  exact ⟨hbelongs.last_lt.trans hfirst, hbelongs, hlower.belongsTo hlowerBlock⟩

/-- Two members, the first with a comment at the end of its line. -/
def trailingComment : List Text :=
  ["/** Stops. */", "stop(): void \x7b \x7d /* for now */", "/**", " * Starts.", " */",
    "@Memo(\x7b ttl: 1 \x7d)", "start(): void \x7b"]

/-- The walk from the second member does not take the comment at the end of the first for the tail
of its block. -/
theorem above?_disjoint_trailingComment :
    ∃ upperBlock lowerBlock, above? trailingComment 1 = some upperBlock ∧
      above? trailingComment 6 = some lowerBlock ∧ upperBlock.last < lowerBlock.first ∧
      BelongsTo trailingComment upperBlock 1 ∧ BelongsTo trailingComment lowerBlock 6 := by
  have hupper : DeclaresAt trailingComment 1 :=
    ⟨by decide +kernel, _, rfl, by decide +kernel⟩
  have hlower : DeclaresAt trailingComment 6 :=
    ⟨by decide +kernel, _, rfl, by decide +kernel⟩
  have hupperBlock : above? trailingComment 1 = some ⟨.singleLine, 0, 0, "/** Stops. */"⟩ := by
    decide +kernel
  have hlowerBlock : above? trailingComment 6 =
      some ⟨.multiLine, 2, 4, "/**\n * Starts.\n */"⟩ := by
    decide +kernel
  exact ⟨_, _, hupperBlock, hlowerBlock,
    above?_disjoint (by decide) hupper hlower hupperBlock hlowerBlock⟩

end DocBlock

end ChangeReview
