import ChangeReview.Proofs.Comment.BlockAbove
import ChangeReview.Proofs.Declaration.MethodLine
import ChangeReview.Proofs.Documentation.Agreement
import ChangeReview.Proofs.Documentation.TagLines

/-!
# Documented methods

`DocumentedMethod` describes a method together with the documentation block written above it: a
description, the access modifier, a tag for each parameter in any order, and a return tag.
`DocumentedMethod.agrees` says that the tags read from the block are those of the method.
-/

namespace ChangeReview

/-- A text that can stand in a comment and holds no tag. -/
structure IsRemark (text : Text) : Prop where
  /-- No tag begins in it. -/
  no_tag : '@' ∉ text
  /-- It stands on one line. -/
  no_lineFeed : '\n' ∉ text
  /-- No comment ends in it. -/
  no_commentEnd : ¬ ['*', '/'] <:+: text

instance : DecidablePred IsRemark := fun text =>
  decidable_of_iff ('@' ∉ text ∧ '\n' ∉ text ∧ ¬ ['*', '/'] <:+: text)
    ⟨fun ⟨htag, hfeed, hend⟩ => ⟨htag, hfeed, hend⟩, fun h => ⟨h.1, h.2, h.3⟩⟩

/-- What documentation says about a parameter. -/
structure ParamNote extends Parameter where
  /-- The text after the name. -/
  remark : Text

/-- The type in braces, as tags show it, and the text after it. -/
def typeInBraces (type rest : Text) : Text := ' ' :: '{' :: (type ++ '}' :: ' ' :: rest)

namespace ParamNote

/-- The text after the mark of the tag. -/
def afterMark (note : ParamNote) : Text :=
  typeInBraces note.declaredType (note.name ++ ' ' :: note.remark)

/-- The tag. -/
def text (note : ParamNote) : Text := "@param".toList ++ note.afterMark

/-- The tag as it is read. -/
def tag (note : ParamNote) : Documentation.ParamTag := ⟨note.name, true⟩

end ParamNote

/-- A method below its documentation. -/
structure DocumentedMethod extends MethodSignature where
  /-- The blanks before each line of the block and before the method. -/
  indent : Text
  /-- The first line of the documentation. -/
  description : Text
  /-- The tags of the parameters, in any order. -/
  notes : List ParamNote
  /-- The text after the type of the return tag. -/
  returnRemark : Text
  /-- The lines between the block and the method. -/
  prelude : List Text
  indent_blank : IsBlankText indent
  description_remark : IsRemark description
  notes_plain : ∀ note ∈ notes, note.toParameter.IsPlain
  notes_remark : ∀ note ∈ notes, IsRemark note.remark
  notes_names : (notes.map (·.name)).Perm (parameters.map (·.name))
  names_distinct : (parameters.map (·.name)).Nodup
  names_allowed : ∀ parameter ∈ parameters, parameter.name ≠ Parameter.destructuredName
  returnRemark_remark : IsRemark returnRemark
  prelude_lines : ∀ line ∈ prelude, DocBlock.IsPreludeLine line

namespace DocumentedMethod

variable (method : DocumentedMethod)

/-- The text of the return tag. -/
def returnText : Text :=
  "@returns".toList ++ typeInBraces method.returnType method.returnRemark

/-- The texts after the stars of the block, line by line. -/
def bodies : List Text :=
  method.description :: method.visibility.tag ::
    (method.notes.map ParamNote.text ++ [method.returnText])

/-- A line inside the block. -/
def starred (body : Text) : Text := method.indent ++ [' ', '*', ' '] ++ body

/-- The line that opens the block. -/
def opener : Text := method.indent ++ ['/', '*', '*']

/-- The line that closes the block. -/
def closer : Text := method.indent ++ [' ', '*', '/']

/-- The documentation block. -/
def block : List Text := method.opener :: (method.bodies.map method.starred ++ [method.closer])

/-- The block, the lines below it and the line of the method. -/
def lines : List Text := method.block ++ method.prelude ++ [method.indent ++ method.text]

theorem append_lines (upper lower : List Text) :
    upper ++ method.lines ++ lower =
      upper ++ method.block ++ method.prelude ++ ((method.indent ++ method.text) :: lower) := by
  simp [lines]

theorem length_lines :
    method.lines.length = method.block.length + method.prelude.length + 1 := by
  simp [lines, Nat.add_assoc]

/-! ## The block as a comment -/

theorem commentEnd_notMem_append {before after : Text} {c : Char} (hstar : c ≠ '*')
    (hslash : c ≠ '/') (hbefore : ¬ ['*', '/'] <:+: before) (hafter : ¬ ['*', '/'] <:+: after) :
    ¬ ['*', '/'] <:+: before ++ c :: after := by
  induction before with
  | nil =>
    rw [List.nil_append, List.infix_cons_iff, List.cons_prefix_cons, not_or]
    exact ⟨fun h => hstar h.1.symm, hafter⟩
  | cons d before ih =>
    rw [List.infix_cons_iff, not_or] at hbefore
    rw [List.cons_append, List.infix_cons_iff, not_or]
    refine ⟨fun h => hbefore.1 ?_, ih hbefore.2⟩
    rw [List.cons_prefix_cons] at h ⊢
    obtain ⟨rfl, hrest⟩ := h
    refine ⟨rfl, ?_⟩
    -- The slash behind the star is not `c`, so it stands in the text before `c`.
    cases before with
    | nil =>
      rw [List.nil_append, List.cons_prefix_cons] at hrest
      exact absurd hrest.1.symm hslash
    | cons e before =>
      rw [List.cons_append, List.cons_prefix_cons] at hrest
      rw [hrest.1]
      exact ⟨before, rfl⟩

theorem commentEnd_notMem_of_notMem {text : Text} {c : Char} (hc : c ∈ ['*', '/'])
    (h : c ∉ text) : ¬ ['*', '/'] <:+: text :=
  fun hin => h (hin.subset hc)

theorem commentEnd_notMem_typeInBraces {mark type rest : Text} (hmark : '*' ∉ mark)
    (htype : ¬ ['*', '/'] <:+: type) (hrest : ¬ ['*', '/'] <:+: rest) :
    ¬ ['*', '/'] <:+: mark ++ typeInBraces type rest := by
  have hopened : ¬ ['*', '/'] <:+:
      mark ++ ' ' :: ([] ++ '{' :: (type ++ '}' :: ([] ++ ' ' :: rest))) := by
    refine commentEnd_notMem_append (by decide) (by decide)
      (commentEnd_notMem_of_notMem (by decide) hmark) ?_
    refine commentEnd_notMem_append (by decide) (by decide) (by decide) ?_
    refine commentEnd_notMem_append (by decide) (by decide) htype ?_
    exact commentEnd_notMem_append (by decide) (by decide) (by decide) hrest
  exact hopened

theorem commentEnd_notMem_noteText {note : ParamNote} (hplain : note.toParameter.IsPlain)
    (hremark : IsRemark note.remark) : ¬ ['*', '/'] <:+: note.text := by
  have hname : ¬ ['*', '/'] <:+: note.name :=
    commentEnd_notMem_of_notMem (List.mem_cons_self) (hplain.name.notMem (by decide))
  have hrest : ¬ ['*', '/'] <:+: note.name ++ ' ' :: note.remark :=
    commentEnd_notMem_append (by decide) (by decide) hname hremark.no_commentEnd
  exact commentEnd_notMem_typeInBraces (by decide) hplain.declaredType.no_commentEnd hrest

theorem commentEnd_notMem_body : ∀ body ∈ method.bodies, ¬ ['*', '/'] <:+: body := by
  have htag : ¬ ['*', '/'] <:+: method.visibility.tag := by
    cases method.visibility <;> decide
  have hreturn : ¬ ['*', '/'] <:+: method.returnText :=
    commentEnd_notMem_typeInBraces (by decide) method.returnType_plain.no_commentEnd
      method.returnRemark_remark.no_commentEnd
  refine List.forall_mem_cons.mpr ⟨method.description_remark.no_commentEnd,
    List.forall_mem_cons.mpr ⟨htag, List.forall_mem_append.mpr ⟨?_, ?_⟩⟩⟩
  · exact List.forall_mem_map.mpr fun note hnote =>
      commentEnd_notMem_noteText (method.notes_plain note hnote) (method.notes_remark note hnote)
  · exact List.forall_mem_singleton.mpr hreturn

theorem notMem_indent_append {c : Char} (hc : isBlank c = false) {marks : Text}
    (hmarks : c ∉ marks) : c ∉ method.indent ++ marks := by
  rw [List.mem_append, not_or]
  refine ⟨fun hindent => ?_, hmarks⟩
  rw [method.indent_blank c hindent] at hc
  cases hc

theorem isBlock : DocBlock.IsBlock method.opener (method.bodies.map method.starred)
    method.closer where
  opener := by
    rw [DocumentedMethod.opener, Text.trim_append_left method.indent_blank]
    rfl
  middle := by
    have hlead : IsBlankText (method.indent ++ [' ']) :=
      List.forall_mem_append.mpr ⟨method.indent_blank, by decide⟩
    refine List.forall_mem_map.mpr fun body hbody => ⟨?_, ?_⟩
    · have hstar : IsTrimmed ['*'] := isTrimmed_singleton rfl
      obtain ⟨kept, hkept⟩ := Text.exists_trim_append hstar (by simp) (' ' :: body)
      have hline : method.starred body = (method.indent ++ [' ']) ++ (['*'] ++ ' ' :: body) := by
        simp [starred]
      rw [hline, Text.trim_append_left hlead, hkept]
      rfl
    · have hslash : '/' ∉ method.indent ++ [' ', '*'] :=
        method.notMem_indent_append (by decide) (by decide)
      have hline := @commentEnd_notMem_append _ _ ' ' (by decide) (by decide)
        (commentEnd_notMem_of_notMem (by decide) hslash) (method.commentEnd_notMem_body body hbody)
      rw [List.append_assoc] at hline
      rw [starred, List.append_assoc]
      exact hline
  closer := by
    have hlead : IsBlankText (method.indent ++ [' ']) :=
      List.forall_mem_append.mpr ⟨method.indent_blank, by decide⟩
    have htrim := Text.trim_append_left hlead ['*', '/']
    rw [List.append_assoc] at htrim
    exact htrim

/-! ## The tags of the block -/

theorem at_notMem_typeInBraces {mark type rest : Text} (hmark : '@' ∉ mark) (htype : '@' ∉ type)
    (hrest : '@' ∉ rest) : '@' ∉ mark ++ typeInBraces type rest := by
  simp [typeInBraces, hmark, htype, hrest]

theorem at_notMem_param {note : ParamNote} (hplain : note.toParameter.IsPlain)
    (hremark : IsRemark note.remark) : '@' ∉ "param".toList ++ note.afterMark := by
  refine at_notMem_typeInBraces (by decide) hplain.declaredType.no_tag ?_
  rw [List.mem_append, List.mem_cons, not_or, not_or]
  exact ⟨hplain.name.notMem (by decide), by decide, hremark.no_tag⟩

theorem at_notMem_returns :
    '@' ∉ "returns".toList ++ typeInBraces method.returnType method.returnRemark :=
  at_notMem_typeInBraces (by decide) method.returnType_plain.no_tag
    method.returnRemark_remark.no_tag

theorem at_notMem_lead : '@' ∉ method.indent ++ [' ', '*', ' '] :=
  method.notMem_indent_append (by decide) (by decide)

theorem at_notMem_keyword : '@' ∉ method.visibility.keyword := by
  cases method.visibility <;> decide

theorem at_notMem_opener : '@' ∉ method.opener :=
  method.notMem_indent_append (by decide) (by decide)

theorem at_notMem_closer : '@' ∉ method.closer :=
  method.notMem_indent_append (by decide) (by decide)

theorem at_notMem_description : '@' ∉ method.starred method.description := by
  rw [starred, List.mem_append, not_or]
  exact ⟨method.at_notMem_lead, method.description_remark.no_tag⟩

/-- The lines of a block are lines without an `@` and the lines of its tags. -/
theorem forall_mem_block {P : Text → Prop} (hplain : ∀ line, '@' ∉ line → P line)
    (hvisibility : P (method.starred method.visibility.tag))
    (hnotes : ∀ note ∈ method.notes, P (method.starred note.text))
    (hreturn : P (method.starred method.returnText)) : ∀ line ∈ method.block, P line := by
  simp only [block, bodies, List.map_cons, List.map_append, List.map_nil, List.map_map,
    List.forall_mem_cons, List.forall_mem_append, List.forall_mem_map, List.cons_append]
  exact ⟨hplain _ method.at_notMem_opener, hplain _ method.at_notMem_description, hvisibility,
    ⟨⟨hnotes, hreturn, List.forall_mem_nil _⟩, hplain _ method.at_notMem_closer,
      List.forall_mem_nil _⟩⟩

/-- A reading of lines that finds nothing without an `@` reads the tags only. -/
theorem flatMap_block {β : Type} (read : Text → List β)
    (hread : ∀ line, '@' ∉ line → read line = []) :
    method.block.flatMap read =
      read (method.starred method.visibility.tag) ++
        (method.notes.flatMap (fun note => read (method.starred note.text)) ++
          read (method.starred method.returnText)) := by
  simp [block, bodies, List.flatMap_map, hread _ method.at_notMem_opener,
    hread _ method.at_notMem_closer, hread _ method.at_notMem_description]

/-- The text of the block. -/
def blockText : Text := Text.joinWith ['\n'] method.block

theorem visibilityTags_blockText :
    Documentation.visibilityTags method.blockText = [method.visibility] := by
  have hvisibility : Documentation.visibilityTagsFrom (method.starred method.visibility.tag) =
      [method.visibility] := by
    rw [starred, Visibility.tag, Documentation.visibilityTagsFrom_tag method.at_notMem_lead
      method.at_notMem_keyword]
    cases method.visibility <;> rfl
  have hnotes : ∀ note ∈ method.notes,
      Documentation.visibilityTagsFrom (method.starred note.text) = [] := fun note hnote =>
    Documentation.visibilityTagsFrom_tag method.at_notMem_lead
      (at_notMem_param (method.notes_plain note hnote) (method.notes_remark note hnote))
  have hreturn : Documentation.visibilityTagsFrom (method.starred method.returnText) = [] :=
    Documentation.visibilityTagsFrom_tag method.at_notMem_lead method.at_notMem_returns
  rw [Documentation.visibilityTags, blockText, Documentation.visibilityTagsFrom_joinWith,
    flatMap_block _ _ fun line hline => Documentation.visibilityTagsFrom_eq_nil hline, hvisibility,
    hreturn, List.flatMap_eq_nil_iff.mpr hnotes]
  rfl

theorem hasReturnTag_blockText : Documentation.hasReturnTag method.blockText = true := by
  have hline : method.starred method.returnText ∈ method.block := by
    simp [block, bodies]
  have htag : Documentation.textsAfterWord "@returns" (method.starred method.returnText) =
      [typeInBraces method.returnType method.returnRemark] := by
    refine (Documentation.textsAfterWord_tag method.at_notMem_lead
      method.at_notMem_returns).trans ?_
    exact Documentation.textsAfterWord_mark method.at_notMem_returns rfl
  have hne : Documentation.textsAfterWord "@returns" method.blockText ≠ [] :=
    Documentation.textsAfterWord_joinWith_ne_nil (by decide) (by decide) hline
      (by rw [htag]; exact List.cons_ne_nil _ _)
  rw [Documentation.hasReturnTag, Bool.or_eq_true]
  right
  simpa using hne

theorem readName?_append {name : Text} (h : IsAsciiName name) (rest : Text) :
    Documentation.ParamTag.readName? (' ' :: (name ++ ' ' :: rest)) = some name := by
  have htrim : Text.trimStart (' ' :: (name ++ ' ' :: rest)) = name ++ ' ' :: rest :=
    trimStart_of_startsIdentifier (show IsBlankText [' '] by decide) (h.starts_append _)
  have hbracket : headIs '[' (name ++ ' ' :: rest) = false := by
    rw [headIs, List.head?_append_of_ne_nil _ h.ne_nil, beq_eq_false_iff_ne]
    intro hc
    exact h.notMem (by decide) (List.mem_of_head? hc)
  have htake : takeName Documentation.ParamTag.isNamePart (name ++ ' ' :: rest) =
      some (name, ' ' :: rest) := by
    refine h.takeName_append (fun c hc => ?_) fun c hc => ?_
    · rw [Documentation.ParamTag.isNamePart, isIdentifierPart_of_isAsciiNamePart hc, Bool.true_or]
    · cases hc
      rfl
  rw [Documentation.ParamTag.readName?, htrim]
  simp only [hbracket, Bool.false_eq_true, ↓reduceIte, htake, Option.map_some]

/-- A parameter tag is read, whatever follows its name. -/
theorem read?_typeInBraces {parameter : Parameter} (h : parameter.IsPlain) (rest : Text) :
    Documentation.ParamTag.read?
      (typeInBraces parameter.declaredType (parameter.name ++ ' ' :: rest)) =
      some ⟨parameter.name, true⟩ := by
  have hclose := Nesting.splitAtClose_enclosed
    (show ('{', '}') ∈ [('(', ')'), ('{', '}'), ('[', ']')] by decide)
    h.declaredType.balanced (' ' :: (parameter.name ++ ' ' :: rest))
  have htrim : Text.trimStart
      (typeInBraces parameter.declaredType (parameter.name ++ ' ' :: rest)) =
      '{' :: (parameter.declaredType ++ '}' :: ' ' :: (parameter.name ++ ' ' :: rest)) := rfl
  have htype : (Text.trim parameter.declaredType).isEmpty = false := by
    rw [List.isEmpty_eq_false_iff]
    exact h.declaredType.trim_ne_nil
  rw [Documentation.ParamTag.read?, htrim, Documentation.ParamTag.splitType]
  simp only [headIs, List.head?_cons, BEq.rfl, ↓reduceIte, hclose, readName?_append h.name]
  simp [htype]

theorem textsAfterWord_noteText {note : ParamNote} (hnote : note ∈ method.notes) :
    Documentation.textsAfterWord "@param" (method.starred note.text) = [note.afterMark] := by
  have hat := at_notMem_param (method.notes_plain note hnote) (method.notes_remark note hnote)
  refine (Documentation.textsAfterWord_tag method.at_notMem_lead hat).trans ?_
  exact Documentation.textsAfterWord_mark hat rfl

theorem textsAfterWord_param_eq_nil {line : Text} (h : '@' ∉ line) :
    Documentation.textsAfterWord "@param" line = [] := Documentation.textsAfterWord_eq_nil h

/-- The other tags of the block are no parameter tags. -/
theorem textsAfterWord_otherTags :
    Documentation.textsAfterWord "@param" (method.starred method.visibility.tag) = [] ∧
      Documentation.textsAfterWord "@param" (method.starred method.returnText) = [] := by
  constructor
  · refine (Documentation.textsAfterWord_tag method.at_notMem_lead
      method.at_notMem_keyword).trans ?_
    cases method.visibility <;> rfl
  · exact (Documentation.textsAfterWord_tag method.at_notMem_lead method.at_notMem_returns).trans
      (Documentation.textsAfterWord_other method.at_notMem_returns rfl)

/-- What is read of a parameter tag stands on its line. -/
theorem read?_append_lineFeed : ∀ line ∈ method.block,
    ∀ after ∈ Documentation.textsAfterWord "@param" line, ∀ rest,
      Documentation.ParamTag.read? (after ++ '\n' :: rest) =
        Documentation.ParamTag.read? after := by
  obtain ⟨hvisibility, hreturn⟩ := method.textsAfterWord_otherTags
  refine method.forall_mem_block (fun line hline => ?_) ?_ (fun note hnote => ?_) ?_
  · rw [textsAfterWord_param_eq_nil hline]
    exact List.forall_mem_nil _
  · rw [hvisibility]
    exact List.forall_mem_nil _
  · rw [method.textsAfterWord_noteText hnote]
    refine List.forall_mem_singleton.mpr fun rest => ?_
    have hplain := method.notes_plain note hnote
    -- The name ends at its blank, before the text that may go on to the next lines.
    have hcut : note.afterMark ++ '\n' :: rest = typeInBraces note.declaredType
        (note.name ++ ' ' :: (note.remark ++ '\n' :: rest)) := by
      simp [ParamNote.afterMark, typeInBraces]
    rw [hcut, read?_typeInBraces hplain, ParamNote.afterMark, read?_typeInBraces hplain]
  · rw [hreturn]
    exact List.forall_mem_nil _

theorem flatMap_notes :
    method.notes.flatMap (fun note =>
      (Documentation.textsAfterWord "@param" (method.starred note.text)).filterMap
        Documentation.ParamTag.read?) = method.notes.map ParamNote.tag := by
  rw [← List.flatMap_singleton' (method.notes.map ParamNote.tag), List.flatMap_map]
  refine List.flatMap_congr fun note hnote => ?_
  rw [method.textsAfterWord_noteText hnote, ParamNote.afterMark,
    List.filterMap_cons_some (read?_typeInBraces (method.notes_plain note hnote) _)]
  rfl

/-- The parameter tags of the block are read in order. -/
theorem paramTags_blockText :
    Documentation.ParamTag.ofText method.blockText = method.notes.map ParamNote.tag := by
  obtain ⟨hvisibility, hreturn⟩ := method.textsAfterWord_otherTags
  have hnone : ∀ line, '@' ∉ line → (Documentation.textsAfterWord "@param" line).filterMap
      Documentation.ParamTag.read? = [] := by
    intro line hline
    rw [textsAfterWord_param_eq_nil hline, List.filterMap_nil]
  have htags : (Documentation.textsAfterWord "@param" method.blockText).filterMap
      Documentation.ParamTag.read? = method.notes.map ParamNote.tag := by
    rw [blockText, Documentation.filterMap_textsAfterWord (by decide) (by decide) _
      method.read?_append_lineFeed, flatMap_block _ _ hnone, hvisibility, hreturn, flatMap_notes]
    simp
  have hdistinct : ((method.notes.map ParamNote.tag).map (·.name)).Nodup := by
    rw [List.map_map]
    exact method.notes_names.nodup_iff.mpr method.names_distinct
  rw [Documentation.ParamTag.ofText, htags, Documentation.ParamTag.keepFirst_of_nodup hdistinct]

/-- The documentation says about the method what its line says. -/
theorem agrees (lineNumber : Nat) :
    Documentation.Agrees (method.declaration lineNumber) method.blockText where
  method := rfl
  visibility := ⟨method.visibility, rfl, method.visibilityTags_blockText⟩
  returns := method.hasReturnTag_blockText
  named := by
    refine List.forall_mem_map.mpr fun parameter hparameter => ?_
    simpa [Parameter.isDestructured, Parameter.trimType] using
      method.names_allowed parameter hparameter
  typed := by
    rw [paramTags_blockText]
    exact List.forall_mem_map.mpr fun note _ => rfl
  names := by
    intro name
    have hperm := @List.Perm.mem_iff _ name _ _ method.notes_names
    rw [paramTags_blockText, List.map_map]
    refine hperm.trans ?_
    rw [MethodSignature.declaration, List.map_map]
    rfl

end DocumentedMethod

end ChangeReview
