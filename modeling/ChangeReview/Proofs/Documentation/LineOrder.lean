import ChangeReview.Proofs.Documentation.ParameterRule
import ChangeReview.Proofs.Documentation.TagLines
import Mathlib.Data.List.Find
import Mathlib.Data.List.Nodup

/-!
# The order of documentation lines

A tag is read from its mark on, through all of the block that follows. Nevertheless every tag is
read from its own line: where its line ends too early, the star of the next line ends it. So the
lines of a block may stand in any order, and only the tags without a parameter are then reported in
another one.
-/

namespace ChangeReview

/-- A type in braces before the name of a parameter tag. -/
structure BracedType where
  /-- What stands between the mark of the tag and the type. -/
  gap : Text
  type : Text
  deriving DecidableEq, Repr

/-- A line of a documentation block, from behind its star on. -/
inductive DocLine where
  | remark (text : Text)
  /-- A parameter tag, where the text begins with the name if there is one. -/
  | param (braced : Option BracedType) (text : Text)
  | returns (text : Text)
  | modifier (visibility : Visibility) (text : Text)
  deriving DecidableEq, Repr

/-- A text on one line in which no tag begins. -/
structure IsUntagged (text : Text) : Prop where
  no_tag : '@' ∉ text
  no_lineFeed : '\n' ∉ text

instance : DecidablePred IsUntagged := fun text =>
  decidable_of_iff ('@' ∉ text ∧ '\n' ∉ text)
    ⟨fun ⟨htag, hfeed⟩ => ⟨htag, hfeed⟩, fun h => ⟨h.1, h.2⟩⟩

namespace DocLine

/-- A type as it is written in a tag. -/
def bracedText : Option BracedType → Text
  | none => []
  | some braced => braced.gap ++ '{' :: (braced.type ++ ['}'])

/-- The text of the line behind its star. -/
def body : DocLine → Text
  | remark text => text
  | param braced text => '@' :: ("param".toList ++ (bracedText braced ++ text))
  | returns text => '@' :: ("returns".toList ++ text)
  | modifier visibility text => '@' :: (visibility.keyword ++ text)

/-- The line as it stands in the block. -/
def text (line : DocLine) : Text := [' ', '*', ' '] ++ line.body

/-- The line holds at most one tag, and its type is closed on it. -/
inductive WellFormed : DocLine → Prop
  | remark {text : Text} (huntagged : IsUntagged text) : WellFormed (remark text)
  | param {braced : Option BracedType} {text : Text}
      (huntagged : IsUntagged (bracedText braced ++ text))
      (hword : startsWithWordChar (bracedText braced ++ text) = false)
      (hgap : ∀ a ∈ braced, IsBlankText a.gap)
      (hbalanced : ∀ a ∈ braced, Nesting.Balanced a.type) (hbrace : '{' ∉ text) :
      WellFormed (param braced text)
  | returns {text : Text} (huntagged : IsUntagged text) (hword : startsWithWordChar text = false) :
      WellFormed (returns text)
  | modifier {visibility : Visibility} {text : Text} (huntagged : IsUntagged text)
      (hword : startsWithWordChar text = false) : WellFormed (modifier visibility text)

instance : DecidablePred WellFormed
  | remark _ => decidable_of_iff _ ⟨.remark, fun | .remark h => h⟩
  | param braced text =>
    decidable_of_iff (IsUntagged (bracedText braced ++ text) ∧
        startsWithWordChar (bracedText braced ++ text) = false ∧
        (∀ a ∈ braced, IsBlankText a.gap) ∧ (∀ a ∈ braced, Nesting.Balanced a.type) ∧ '{' ∉ text)
      ⟨fun ⟨huntagged, hword, hgap, hbalanced, hbrace⟩ =>
          .param huntagged hword hgap hbalanced hbrace,
        fun | .param huntagged hword hgap hbalanced hbrace =>
              ⟨huntagged, hword, hgap, hbalanced, hbrace⟩⟩
  | returns text =>
    decidable_of_iff (IsUntagged text ∧ startsWithWordChar text = false)
      ⟨fun h => .returns h.1 h.2, fun | .returns huntagged hword => ⟨huntagged, hword⟩⟩
  | modifier _ text =>
    decidable_of_iff (IsUntagged text ∧ startsWithWordChar text = false)
      ⟨fun h => .modifier h.1 h.2, fun | .modifier huntagged hword => ⟨huntagged, hword⟩⟩

/-- What follows the mark of a parameter tag. -/
def afterMark? : DocLine → Option Text
  | param braced text => some (bracedText braced ++ text)
  | _ => none

/-- The parameter tag on the line, if it has a name. -/
def tag? (line : DocLine) : Option Documentation.ParamTag :=
  line.afterMark?.bind Documentation.ParamTag.read?

/-- The access modifier on the line. -/
def modifier? : DocLine → Option Visibility
  | modifier visibility _ => some visibility
  | _ => none

end DocLine

namespace Documentation

/-- The lines of a block that name each parameter once and one access modifier at most. -/
structure IsTidy (lines : List DocLine) : Prop where
  wellFormed : ∀ line ∈ lines, line.WellFormed
  names : ((lines.filterMap DocLine.tag?).map (·.name)).Nodup
  modifiers : ∀ v ∈ lines.filterMap DocLine.modifier?,
    ∀ w ∈ lines.filterMap DocLine.modifier?, v = w

/-- The block of the lines, with its opening and closing line around them. -/
def blockOf (first : Nat) (lines : List DocLine) : DocBlock where
  shape := .multiLine
  first
  last := first + lines.length + 1
  text := Text.joinWith ['\n']
    (['/', '*', '*'] :: (lines.map DocLine.text ++ [[' ', '*', '/']]))

/-- A tag without a parameter is reported. -/
def Discrepancy.isStrayTag : Discrepancy → Bool
  | extraParamTag _ => true
  | _ => false

variable {declaration : Declaration} {voidReturn : VoidReturn} {line : DocLine}
  {lines lines' : List DocLine} {text rest : Text}

/-! ## The end of a line -/

/-- A text that begins with a star behind blanks. -/
def IsStarred (text : Text) : Prop := headIs '*' (Text.trimStart text) = true

theorem IsStarred.exists_trimStart (h : IsStarred text) :
    ∃ after, Text.trimStart text = '*' :: after :=
  List.head?_eq_some_iff.mp (eq_of_beq h)

theorem trimStart_append_lineFeed (text rest : Text) :
    Text.trimStart (text ++ '\n' :: rest) =
      if (Text.trimStart text).isEmpty then Text.trimStart rest
      else Text.trimStart text ++ '\n' :: rest :=
  List.dropWhile_append

namespace ParamTag

theorem takeName_append_lineFeed (text rest : Text) :
    (takeName isNamePart (text ++ '\n' :: rest)).map Prod.fst =
      (takeName isNamePart text).map Prod.fst := by
  have hwhile : (text ++ '\n' :: rest).takeWhile isNamePart = text.takeWhile isNamePart := by
    induction text with
    | nil => rfl
    | cons c text ih =>
      rw [List.cons_append, List.takeWhile_cons, List.takeWhile_cons, ih]
  cases text with
  | nil => rfl
  | cons c text =>
    have hstarts : startsIdentifier (c :: text ++ '\n' :: rest) = startsIdentifier (c :: text) :=
      rfl
    rw [takeName, takeName, hstarts, hwhile]
    split <;> rfl

/-- A name is not read from the next line. -/
theorem readName?_append_lineFeed (text : Text) (hstar : IsStarred rest) :
    readName? (text ++ '\n' :: rest) = readName? text := by
  rw [readName?, readName?, trimStart_append_lineFeed]
  cases hcut : Text.trimStart text with
  | nil =>
    -- On a blank line the reader goes on to the star of the next one, which begins no name.
    obtain ⟨after, hafter⟩ := hstar.exists_trimStart
    rw [hafter]
    rfl
  | cons c cut =>
    by_cases hbracket : c = '['
    · subst hbracket
      exact takeName_append_lineFeed cut rest
    · have hhead : headIs '[' (c :: cut) = false := by simpa [headIs] using hbracket
      have hhead' : headIs '[' (c :: cut ++ '\n' :: rest) = false := hhead
      simp only [List.isEmpty_cons, Bool.false_eq_true, ↓reduceIte, hhead, hhead']
      exact takeName_append_lineFeed (c :: cut) rest

theorem readName?_trimStart (text : Text) : readName? (Text.trimStart text) = readName? text := by
  refine Option.ext fun name => ?_
  rw [readName?_eq_some_iff, readName?_eq_some_iff, names_trimStart_iff]

/-- A type in braces is read off, whatever follows it. -/
theorem read?_braced {braced : BracedType} (hgap : IsBlankText braced.gap)
    (hbalanced : Nesting.Balanced braced.type) (after : Text) :
    read? (DocLine.bracedText (some braced) ++ after) =
      (readName? after).map fun name => ⟨name, !(Text.trim braced.type).isEmpty⟩ := by
  have htype : splitType (Text.trimStart (DocLine.bracedText (some braced) ++ after)) =
      (some braced.type, after) :=
    splitType_eq_some_iff.mpr ⟨braced.gap, '}', hgap, by simp [DocLine.bracedText],
      hbalanced, rfl⟩
  rw [read?, htype]
  rfl

theorem read?_plain (h : headIs '{' (Text.trimStart text) = false) :
    read? text = (readName? text).map fun name => ⟨name, false⟩ := by
  rw [read?, splitType, h, if_neg Bool.false_ne_true, ← readName?_trimStart text]
  rfl

theorem headIs_trimStart_of_notMem {c : Char} (h : c ∉ text) :
    headIs c (Text.trimStart text) = false := by
  rw [headIs, beq_eq_false_iff_ne]
  intro hhead
  exact h ((List.dropWhile_suffix isBlank).mem (List.mem_of_head? hhead))

/-- Nor is a type: a text without a brace has none, and then comes the star of the next line. -/
theorem read?_plain_append_lineFeed (hbrace : '{' ∉ text) (hstar : IsStarred rest) :
    read? (text ++ '\n' :: rest) = read? text := by
  have hhead := headIs_trimStart_of_notMem hbrace
  have hhead' : headIs '{' (Text.trimStart (text ++ '\n' :: rest)) = false := by
    rw [trimStart_append_lineFeed]
    cases hcut : Text.trimStart text with
    | nil =>
      obtain ⟨after, hafter⟩ := hstar.exists_trimStart
      rw [hafter]
      rfl
    | cons c cut =>
      rw [hcut] at hhead
      exact hhead
  rw [read?_plain hhead, read?_plain hhead', readName?_append_lineFeed text hstar]

end ParamTag

/-! ## What is read of a line -/

theorem isStarred_text (line : DocLine) (rest : Text) : IsStarred (line.text ++ rest) := rfl

theorem at_notMem_star : '@' ∉ [' ', '*', ' '] := by decide

theorem at_notMem_append {word : Text} (hword : '@' ∉ word) (h : IsUntagged text) :
    '@' ∉ word ++ text := by
  rw [List.mem_append, not_or]
  exact ⟨hword, h.no_tag⟩

theorem at_notMem_keyword_append (visibility : Visibility) (h : IsUntagged text) :
    '@' ∉ visibility.keyword ++ text :=
  at_notMem_append (by cases visibility <;> decide) h

theorem textsAfterWord_text (h : line.WellFormed) :
    textsAfterWord "@param" line.text = line.afterMark?.toList := by
  cases h with
  | remark huntagged => exact textsAfterWord_eq_nil (at_notMem_append at_notMem_star huntagged)
  | param huntagged hword =>
    have hat := at_notMem_append (show '@' ∉ "param".toList by decide) huntagged
    exact (textsAfterWord_tag at_notMem_star hat).trans (textsAfterWord_mark hat hword)
  | returns huntagged =>
    have hat := at_notMem_append (show '@' ∉ "returns".toList by decide) huntagged
    exact (textsAfterWord_tag at_notMem_star hat).trans (textsAfterWord_other hat rfl)
  | @modifier visibility _ huntagged =>
    have hat := at_notMem_keyword_append visibility huntagged
    refine (textsAfterWord_tag at_notMem_star hat).trans (textsAfterWord_other hat ?_)
    cases visibility <;> rfl

theorem visibilityTagsFrom_text (h : line.WellFormed) :
    visibilityTagsFrom line.text = line.modifier?.toList := by
  cases h with
  | remark huntagged => exact visibilityTagsFrom_eq_nil (at_notMem_append at_notMem_star huntagged)
  | param huntagged =>
    have hat := at_notMem_append (show '@' ∉ "param".toList by decide) huntagged
    exact (visibilityTagsFrom_tag at_notMem_star hat).trans rfl
  | returns huntagged =>
    have hat := at_notMem_append (show '@' ∉ "returns".toList by decide) huntagged
    exact (visibilityTagsFrom_tag at_notMem_star hat).trans rfl
  | @modifier visibility text huntagged hword =>
    refine (visibilityTagsFrom_tag at_notMem_star
      (at_notMem_keyword_append visibility huntagged)).trans ?_
    exact congrArg Option.toList (visibilityTagAt?_tag visibility hword)

/-- A parameter tag ends on its line. -/
theorem read?_append_lineFeed (h : line.WellFormed) (hstar : IsStarred rest) :
    ∀ after ∈ textsAfterWord "@param" line.text,
      ParamTag.read? (after ++ '\n' :: rest) = ParamTag.read? after := by
  rw [textsAfterWord_text h]
  cases h with
  | @param braced text _ _ hgap hbalanced hbrace =>
    refine List.forall_mem_singleton.mpr ?_
    cases braced with
    | none => exact ParamTag.read?_plain_append_lineFeed hbrace hstar
    | some braced =>
      have hgap := hgap braced rfl
      have hbalanced := hbalanced braced rfl
      rw [List.append_assoc, ParamTag.read?_braced hgap hbalanced,
        ParamTag.read?_braced hgap hbalanced, ParamTag.readName?_append_lineFeed text hstar]
  | _ => exact List.forall_mem_nil _

/-! ## What is read of a block -/

/-- A reading that finds nothing in the first and last line of a block reads the lines between. -/
theorem flatMap_blockLines {β : Type} (read : Text → List β) (hopener : read ['/', '*', '*'] = [])
    (hcloser : read [' ', '*', '/'] = []) (lines : List DocLine) :
    (['/', '*', '*'] :: (lines.map DocLine.text ++ [[' ', '*', '/']])).flatMap read =
      lines.flatMap fun line => read line.text := by
  rw [List.flatMap_cons, List.flatMap_append, List.flatMap_singleton, hopener, hcloser,
    List.flatMap_map, List.nil_append, List.append_nil]

theorem visibilityTagsFrom_blockOf (h : ∀ line ∈ lines, line.WellFormed) (first : Nat) :
    visibilityTagsFrom (blockOf first lines).text = lines.filterMap DocLine.modifier? := by
  rw [blockOf, visibilityTagsFrom_joinWith, flatMap_blockLines _ rfl rfl,
    List.filterMap_eq_flatMap_toList]
  exact List.flatMap_congr fun line hline => visibilityTagsFrom_text (h line hline)

/-- What is read behind the marks of parameter tags in a block is read on each line for itself. -/
theorem filterMap_read?_blockOf (h : ∀ line ∈ lines, line.WellFormed) (first : Nat) :
    (textsAfterWord "@param" (blockOf first lines).text).filterMap ParamTag.read? =
      lines.filterMap DocLine.tag? := by
  -- Every line but the first is starred, and a starred line ends the tag of the line before it.
  have hread := @filterMap_textsAfterWord_of "@param".toList _ IsStarred (by decide) (by decide)
    ParamTag.read? (['/', '*', '*'] :: (lines.map DocLine.text ++ [[' ', '*', '/']])) ?_ ?_
  · refine hread.trans ?_
    rw [flatMap_blockLines _ rfl rfl, List.filterMap_eq_flatMap_toList]
    refine List.flatMap_congr fun line hline => ?_
    rw [textsAfterWord_text (h line hline), DocLine.tag?]
    cases line.afterMark? with
    | none => rfl
    | some after =>
      rw [Option.bind_some, Option.toList_some, List.filterMap_eq_flatMap_toList]
      exact List.flatMap_singleton _ _
  · rw [List.tail_cons, List.forall_mem_append, List.forall_mem_map]
    exact ⟨fun line _ rest => isStarred_text line rest,
      List.forall_mem_singleton.mpr fun rest => rfl⟩
  · rw [List.forall_mem_cons, List.forall_mem_append, List.forall_mem_map]
    refine ⟨List.forall_mem_nil _, fun line hline after hafter rest hstar => ?_,
      List.forall_mem_singleton.mpr (List.forall_mem_nil _)⟩
    exact read?_append_lineFeed (h line hline) hstar after hafter

theorem paramTags_blockOf (h : IsTidy lines) (first : Nat) :
    ParamTag.ofText (blockOf first lines).text = lines.filterMap DocLine.tag? := by
  rw [ParamTag.ofText, filterMap_read?_blockOf h.wellFormed,
    ParamTag.keepFirst_of_nodup h.names]

/-! ## Another order -/

theorem IsTidy.perm (h : IsTidy lines) (hperm : lines.Perm lines') : IsTidy lines' where
  wellFormed line hline := h.wellFormed line (hperm.mem_iff.mpr hline)
  names := (((hperm.filterMap _).map _).nodup_iff).mp h.names
  modifiers v hv w hw :=
    h.modifiers v ((hperm.filterMap _).mem_iff.mpr hv) w ((hperm.filterMap _).mem_iff.mpr hw)

/-- Modifiers that are all the same have one order only. -/
theorem IsTidy.modifiers_eq (h : IsTidy lines) (hperm : lines.Perm lines') :
    lines.filterMap DocLine.modifier? = lines'.filterMap DocLine.modifier? := by
  cases hfound : lines.filterMap DocLine.modifier? with
  | nil => exact (List.perm_nil.mp (hfound ▸ hperm.symm.filterMap _)).symm
  | cons v found =>
    have hsame : ∀ w ∈ lines.filterMap DocLine.modifier?, w = v := fun w hw =>
      h.modifiers w hw v (hfound ▸ List.mem_cons_self)
    -- A list of equal members is its only permutation.
    have hall := List.eq_replicate_of_mem hsame
    rw [← hfound, hall, eq_comm, ← List.perm_replicate, ← hall]
    exact (hperm.filterMap _).symm

theorem isEmpty_textsAfterWord_blockOf {mark : Text} (hmark : '\n' ∉ mark) (hne : mark ≠ [])
    (hperm : lines.Perm lines') (first : Nat) :
    (textsAfterWord mark (blockOf first lines).text).isEmpty =
      (textsAfterWord mark (blockOf first lines').text).isEmpty := by
  have hblock : (['/', '*', '*'] :: (lines.map DocLine.text ++ [[' ', '*', '/']])).Perm
      (['/', '*', '*'] :: (lines'.map DocLine.text ++ [[' ', '*', '/']])) :=
    ((hperm.map _).append_right _).cons _
  rw [Bool.eq_iff_iff, List.isEmpty_iff, List.isEmpty_iff, blockOf, blockOf,
    textsAfterWord_joinWith_eq_nil_iff hmark hne, textsAfterWord_joinWith_eq_nil_iff hmark hne]
  simp only [hblock.mem_iff]

theorem hasReturnTag_blockOf (hperm : lines.Perm lines') (first : Nat) :
    hasReturnTag (blockOf first lines).text = hasReturnTag (blockOf first lines').text := by
  rw [hasReturnTag, hasReturnTag,
    isEmpty_textsAfterWord_blockOf (by decide) (by decide) hperm first,
    isEmpty_textsAfterWord_blockOf (by decide) (by decide) hperm first]

variable {tags tags' : List ParamTag}

theorem parameterDiscrepancy?_of_perm (hperm : tags.Perm tags')
    (hdistinct : (tags.map (·.name)).Nodup) (name : Text) :
    parameterDiscrepancy? tags name = parameterDiscrepancy? tags' name := by
  have hfind : tags.find? (·.name == name) = tags'.find? (·.name == name) := by
    refine List.find?_eq_find?_of_perm hperm fun tag htag other hother => ?_
    obtain ⟨htag, hname⟩ := htag
    obtain ⟨hother, hname'⟩ := hother
    exact List.inj_on_of_nodup_map hdistinct htag hother
      ((eq_of_beq hname).trans (eq_of_beq hname').symm)
  rw [parameterDiscrepancy?, parameterDiscrepancy?, hfind]

theorem isExtra_of_perm (hperm : tags.Perm tags') :
    isExtra declaration tags = isExtra declaration tags' := by
  funext tag
  rw [isExtra, isExtra, namesPattern, namesPattern, hperm.any_eq]

theorem Complaints.isStrayTag {names : List Text} {found : List Discrepancy}
    (h : Complaints tags names found) : ∀ complaint ∈ found, complaint.isStrayTag = false := by
  induction h with
  | nil => exact List.forall_mem_nil _
  | untagged _ _ ih => exact List.forall_mem_cons.mpr ⟨rfl, ih⟩
  | untyped _ _ _ ih => exact List.forall_mem_cons.mpr ⟨rfl, ih⟩
  | documented _ _ _ ih => exact ih

/-- Tags in another order raise the same complaints, and then leave the same tags over. -/
theorem parameterDiscrepancies_of_perm (declaration : Declaration) {block block' : DocBlock}
    (hperm : (ParamTag.ofText block.text).Perm (ParamTag.ofText block'.text)) :
    ∃ complaints strays strays', (∀ complaint ∈ complaints, complaint.isStrayTag = false) ∧
      strays.Perm strays' ∧
      parameterDiscrepancies declaration block = parameterReport complaints strays ∧
      parameterDiscrepancies declaration block' = parameterReport complaints strays' := by
  have hdistinct := (ParamTag.firstTags_ofText block.text).nodup
  cases hempty : declaration.namedParameters.isEmpty with
  | true =>
    refine ⟨[], [], [], List.forall_mem_nil _, .nil, ?_, ?_⟩ <;>
      rw [parameterDiscrepancies, hempty] <;> rfl
  | false =>
    have hcomplaints := complaints_filterMap (ParamTag.ofText block.text)
      (declaration.namedParameters.map (·.name))
    refine ⟨_, _, _, hcomplaints.isStrayTag,
      hperm.filter (isExtra declaration (ParamTag.ofText block.text)), ?_, ?_⟩
    · rw [parameterDiscrepancies, hempty, if_neg Bool.false_ne_true, List.filterMap_map]
      rfl
    · have hsame : parameterDiscrepancy? (ParamTag.ofText block.text) =
          parameterDiscrepancy? (ParamTag.ofText block'.text) :=
        funext (parameterDiscrepancy?_of_perm hperm hdistinct)
      rw [parameterDiscrepancies, hempty, if_neg Bool.false_ne_true, List.filterMap_map, hsame,
        isExtra_of_perm hperm]
      rfl

/-- In another order the lines of a block raise the same discrepancies. Only those about tags
without a parameter may change places among each other. -/
theorem discrepancies_blockOf_perm (hmethod : declaration.isMethod = true) (htidy : IsTidy lines)
    (hperm : lines.Perm lines') (voidReturn : VoidReturn) (first : Nat) :
    (discrepancies voidReturn declaration (some (blockOf first lines))).Perm
        (discrepancies voidReturn declaration (some (blockOf first lines'))) ∧
      (discrepancies voidReturn declaration (some (blockOf first lines))).filter
          (!·.isStrayTag) =
        (discrepancies voidReturn declaration (some (blockOf first lines'))).filter
          (!·.isStrayTag) := by
  have htidy' := htidy.perm hperm
  have hvisibility : visibilityDiscrepancies declaration (blockOf first lines) =
      visibilityDiscrepancies declaration (blockOf first lines') := by
    rw [visibilityDiscrepancies, visibilityDiscrepancies, visibilityTags, visibilityTags,
      visibilityTagsFrom_blockOf htidy.wellFormed, visibilityTagsFrom_blockOf htidy'.wellFormed,
      htidy.modifiers_eq hperm]
  have hreturn : returnDiscrepancies voidReturn declaration (blockOf first lines) =
      returnDiscrepancies voidReturn declaration (blockOf first lines') := by
    rw [returnDiscrepancies, returnDiscrepancies, hasReturnTag_blockOf hperm]
  have htags : (ParamTag.ofText (blockOf first lines).text).Perm
      (ParamTag.ofText (blockOf first lines').text) := by
    rw [paramTags_blockOf htidy, paramTags_blockOf htidy']
    exact hperm.filterMap _
  obtain ⟨complaints, strays, strays', hcomplaints, hstrays, hreport, hreport'⟩ :=
    parameterDiscrepancies_of_perm declaration htags
  have hnone (strays : List ParamTag) :
      (strays.map fun tag => Discrepancy.extraParamTag tag.name).filter (!·.isStrayTag) = [] :=
    List.filter_eq_nil_iff.mpr (List.forall_mem_map.mpr fun _ _ => Bool.false_ne_true)
  rw [discrepancies, discrepancies, if_pos hmethod, if_pos hmethod, hvisibility, hreturn, hreport,
    hreport', parameterReport, parameterReport]
  constructor
  · exact (((hstrays.map _).append_left _).append_left _).append_left _
  · simp only [List.filter_append, hnone]

/-- Tags without a name, without a type and with a blank type stand before all kinds of lines. -/
def scatteredLines : List DocLine :=
  [.param none " ",
    .param (some ⟨" ", "Map<string, \x7b id: number \x7d>"⟩) "  stale - left over",
    .returns " nothing [yet]",
    .param none " limit how many",
    .param (some ⟨[], " "⟩) "old",
    .remark "Finds \x7b things < 3",
    .modifier .prot [],
    .param (some ⟨" ", "number"⟩) []]

/-- A method whose parameters are not all in those lines. -/
def scatteredMethod : Declaration where
  kind := .method
  visibility := some .priv
  name := "find"
  parameters := [⟨"key", "string"⟩, ⟨"limit", "number"⟩]
  returnType := none
  accessor := none
  lineNumber := 12

theorem discrepancies_blockOf_perm_reverse :
    IsTidy scatteredLines ∧ scatteredLines.Perm scatteredLines.reverse ∧
      discrepancies .require scatteredMethod (some (blockOf 0 scatteredLines)) =
        [.visibilityTagMismatch .priv .prot, .missingParamTag "key", .missingParamType "limit",
          .extraParamTag "stale", .extraParamTag "old"] ∧
      (discrepancies .require scatteredMethod (some (blockOf 0 scatteredLines))).Perm
        (discrepancies .require scatteredMethod (some (blockOf 0 scatteredLines.reverse))) ∧
      (discrepancies .require scatteredMethod (some (blockOf 0 scatteredLines.reverse))).filter
          (!·.isStrayTag) =
        [.visibilityTagMismatch .priv .prot, .missingParamTag "key", .missingParamType "limit"] := by
  have htidy : IsTidy scatteredLines :=
    ⟨by decide +kernel, by decide +kernel, by decide +kernel⟩
  have hperm : scatteredLines.Perm scatteredLines.reverse := (List.reverse_perm _).symm
  have hfound : discrepancies .require scatteredMethod (some (blockOf 0 scatteredLines)) =
      [.visibilityTagMismatch .priv .prot, .missingParamTag "key", .missingParamType "limit",
        .extraParamTag "stale", .extraParamTag "old"] := by decide +kernel
  obtain ⟨hsame, hkept⟩ := discrepancies_blockOf_perm
    (show scatteredMethod.isMethod = true from rfl) htidy hperm .require 0
  refine ⟨htidy, hperm, hfound, hsame, ?_⟩
  rw [← hkept, hfound]
  decide

end Documentation

end ChangeReview
