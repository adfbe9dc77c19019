import ChangeReview.Documentation.Tag
import ChangeReview.Proofs.Text.Parts

/-!
# Tags line by line

A tag begins at an `@` and its mark stands on one line, so the tags of a block are those of its
lines, one line after another. A line with one `@` holds at most one tag, and a line without any
holds none.
-/

namespace ChangeReview.Documentation

variable {mark lead text : Text}

/-! ## Marks and line feeds -/

theorem isPrefixOf_append_lineFeed (hmark : '\n' ∉ mark) (text rest : Text) :
    mark.isPrefixOf (text ++ '\n' :: rest) = mark.isPrefixOf text := by
  induction mark generalizing text with
  | nil => rfl
  | cons c mark ih =>
    rw [List.mem_cons, not_or] at hmark
    cases text with
    | nil =>
      rw [List.nil_append, List.isPrefixOf_cons_cons, beq_eq_false_iff_ne.mpr (Ne.symm hmark.1)]
      rfl
    | cons d text =>
      rw [List.cons_append, List.isPrefixOf_cons_cons, List.isPrefixOf_cons_cons, ih hmark.2]

theorem drop_append_of_isPrefixOf (h : mark.isPrefixOf text = true) (rest : Text) :
    (text ++ rest).drop mark.length = text.drop mark.length ++ rest :=
  List.drop_append_of_le_length (List.isPrefixOf_iff_prefix.mp h).length_le

theorem startsWithWordChar_append_lineFeed (text rest : Text) :
    startsWithWordChar (text ++ '\n' :: rest) = startsWithWordChar text := by
  cases text with
  | nil => rfl
  | cons c text => rfl

/-! ## The texts after a mark -/

theorem textsAfter_cons (mark : Text) (c : Char) (text : Text) :
    textsAfter mark (c :: text) =
      if mark.isPrefixOf (c :: text) then (c :: text).drop mark.length :: textsAfter mark text
      else textsAfter mark text := rfl

theorem textsAfter_append (hmark : '\n' ∉ mark) (hne : mark ≠ []) (text rest : Text) :
    textsAfter mark (text ++ '\n' :: rest) =
      (textsAfter mark text).map (· ++ '\n' :: rest) ++ textsAfter mark rest := by
  induction text with
  | nil =>
    have hhead : mark.isPrefixOf ('\n' :: rest) = false := by
      rw [← List.nil_append ('\n' :: rest), isPrefixOf_append_lineFeed hmark]
      cases mark with
      | nil => exact absurd rfl hne
      | cons c mark => rfl
    rw [List.nil_append, textsAfter_cons, hhead, if_neg Bool.false_ne_true]
    rfl
  | cons c text ih =>
    -- The mark stands here in the block if it stands here on the line.
    have hhere := isPrefixOf_append_lineFeed hmark (c :: text) rest
    rw [List.cons_append] at hhere
    rw [List.cons_append, textsAfter_cons, textsAfter_cons, hhere, ih]
    split
    · next h =>
      have hdrop := drop_append_of_isPrefixOf h ('\n' :: rest)
      rw [List.cons_append] at hdrop
      rw [hdrop, List.map_cons, List.cons_append]
    · rfl

theorem textsAfterWord_append (hmark : '\n' ∉ mark) (hne : mark ≠ []) (text rest : Text) :
    textsAfterWord mark (text ++ '\n' :: rest) =
      (textsAfterWord mark text).map (· ++ '\n' :: rest) ++ textsAfterWord mark rest := by
  have hword : (fun after => !startsWithWordChar after) ∘ (· ++ '\n' :: rest) =
      fun after => !startsWithWordChar after := by
    funext after
    simp only [Function.comp, startsWithWordChar_append_lineFeed]
  rw [textsAfterWord, textsAfter_append hmark hne, List.filter_append, List.filter_map, hword]
  rfl

/-- What is read after a mark in a block is read line by line, if each reading ends before the lines
that follow, of which `P` is known. -/
theorem filterMap_textsAfterWord_of {β : Type} {P : Text → Prop} (hmark : '\n' ∉ mark)
    (hne : mark ≠ []) (read? : Text → Option β) {lines : List Text}
    (hlead : ∀ line ∈ lines.tail, ∀ rest, P (line ++ rest))
    (hread : ∀ line ∈ lines, ∀ after ∈ textsAfterWord mark line, ∀ rest, P rest →
      read? (after ++ '\n' :: rest) = read? after) :
    (textsAfterWord mark (Text.joinWith ['\n'] lines)).filterMap read? =
      lines.flatMap fun line => (textsAfterWord mark line).filterMap read? := by
  induction lines with
  | nil => rfl
  | cons line lines ih =>
    cases lines with
    | nil => rw [Text.joinWith, List.flatMap_cons, List.flatMap_nil, List.append_nil]
    | cons next lines =>
      have hnext : P (Text.joinWith ['\n'] (next :: lines)) := by
        obtain ⟨rest, hrest⟩ := Text.exists_joinWith_cons ['\n'] next lines
        rw [hrest]
        exact hlead next List.mem_cons_self rest
      have hline : ((textsAfterWord mark line).map
          (· ++ '\n' :: Text.joinWith ['\n'] (next :: lines))).filterMap read? =
          (textsAfterWord mark line).filterMap read? := by
        rw [List.filterMap_map]
        exact List.filterMap_congr fun after hafter =>
          hread line List.mem_cons_self after hafter _ hnext
      rw [Text.joinWith_cons_cons, List.append_assoc, List.cons_append, List.nil_append,
        textsAfterWord_append hmark hne, List.filterMap_append, hline,
        ih (fun l hl => hlead l (List.mem_of_mem_tail hl))
          fun l hl => hread l (List.mem_cons_of_mem _ hl)]
      rfl

/-- What is read after a mark in a block is read line by line, if each reading ends on its line. -/
theorem filterMap_textsAfterWord {β : Type} (hmark : '\n' ∉ mark) (hne : mark ≠ [])
    (read? : Text → Option β) {lines : List Text}
    (hread : ∀ line ∈ lines, ∀ after ∈ textsAfterWord mark line, ∀ rest,
      read? (after ++ '\n' :: rest) = read? after) :
    (textsAfterWord mark (Text.joinWith ['\n'] lines)).filterMap read? =
      lines.flatMap fun line => (textsAfterWord mark line).filterMap read? :=
  @filterMap_textsAfterWord_of _ _ (fun _ => True) hmark hne read? _ (fun _ _ _ => trivial)
    fun line hline after hafter rest _ => hread line hline after hafter rest

theorem textsAfterWord_joinWith_eq_nil_iff (hmark : '\n' ∉ mark) (hne : mark ≠ [])
    {lines : List Text} : textsAfterWord mark (Text.joinWith ['\n'] lines) = [] ↔
      ∀ line ∈ lines, textsAfterWord mark line = [] := by
  -- To know how many texts there are is enough, so each is read as nothing but itself.
  have hlines := @filterMap_textsAfterWord _ _ hmark hne (fun _ => some ()) lines
    fun _ _ _ _ _ => rfl
  have hunits (texts : List Text) : texts.filterMap (fun _ => some ()) = [] ↔ texts = [] := by
    cases texts <;> simp
  rw [← hunits, hlines, List.flatMap_eq_nil_iff]
  simp only [hunits]

theorem textsAfterWord_joinWith_ne_nil (hmark : '\n' ∉ mark) (hne : mark ≠ [])
    {lines : List Text} {line : Text} (hline : line ∈ lines)
    (htag : textsAfterWord mark line ≠ []) :
    textsAfterWord mark (Text.joinWith ['\n'] lines) ≠ [] := fun hnil =>
  htag ((textsAfterWord_joinWith_eq_nil_iff hmark hne).mp hnil line hline)

theorem textsAfter_eq_nil (hat : '@' ∉ text) : textsAfter ('@' :: mark) text = [] := by
  induction text with
  | nil => rfl
  | cons c text ih =>
    rw [List.mem_cons, not_or] at hat
    rw [textsAfter_cons, List.isPrefixOf_cons_cons, beq_eq_false_iff_ne.mpr hat.1, Bool.false_and,
      if_neg Bool.false_ne_true, ih hat.2]

theorem textsAfter_tag (hlead : '@' ∉ lead) (htext : '@' ∉ text) :
    textsAfter ('@' :: mark) (lead ++ '@' :: text) =
      if mark.isPrefixOf text then [text.drop mark.length] else [] := by
  induction lead with
  | nil =>
    rw [List.nil_append, textsAfter_cons, List.isPrefixOf_cons_cons, BEq.rfl, Bool.true_and,
      textsAfter_eq_nil htext]
    rfl
  | cons c lead ih =>
    rw [List.mem_cons, not_or] at hlead
    rw [List.cons_append, textsAfter_cons, List.isPrefixOf_cons_cons,
      beq_eq_false_iff_ne.mpr hlead.1, Bool.false_and, if_neg Bool.false_ne_true, ih hlead.2]

theorem textsAfterWord_eq_nil (hat : '@' ∉ text) : textsAfterWord ('@' :: mark) text = [] := by
  rw [textsAfterWord, textsAfter_eq_nil hat, List.filter_nil]

/-- A line with one `@` has the texts after a mark that its tag has. -/
theorem textsAfterWord_tag (hlead : '@' ∉ lead) (htext : '@' ∉ text) :
    textsAfterWord ('@' :: mark) (lead ++ '@' :: text) =
      textsAfterWord ('@' :: mark) ('@' :: text) := by
  have htag := @textsAfter_tag mark [] _ List.not_mem_nil htext
  rw [List.nil_append] at htag
  rw [textsAfterWord, textsAfter_tag hlead htext, textsAfterWord, htag]

theorem textsAfterWord_mark {after : Text} (h : '@' ∉ mark ++ after)
    (hword : startsWithWordChar after = false) :
    textsAfterWord ('@' :: mark) ('@' :: (mark ++ after)) = [after] := by
  have hprefix : mark.isPrefixOf (mark ++ after) = true :=
    List.isPrefixOf_iff_prefix.mpr (List.prefix_append mark after)
  have htag := @textsAfter_tag mark [] _ List.not_mem_nil h
  rw [List.nil_append, if_pos hprefix, List.drop_left] at htag
  rw [textsAfterWord, htag, List.filter_cons, hword]
  rfl

theorem textsAfterWord_other (htext : '@' ∉ text) (hother : mark.isPrefixOf text = false) :
    textsAfterWord ('@' :: mark) ('@' :: text) = [] := by
  have htag := @textsAfter_tag mark [] _ List.not_mem_nil htext
  rw [List.nil_append, hother, if_neg Bool.false_ne_true] at htag
  rw [textsAfterWord, htag, List.filter_nil]

/-! ## Access modifiers -/

/-- The access modifier whose tag begins the text. -/
def visibilityTagAt? (text : Text) : Option Visibility :=
  Visibility.all.find? fun visibility =>
    visibility.tag.isPrefixOf text && !startsWithWordChar (text.drop visibility.tag.length)

theorem visibilityTagsFrom_cons (c : Char) (text : Text) :
    visibilityTagsFrom (c :: text) =
      (visibilityTagAt? (c :: text)).toList ++ visibilityTagsFrom text := rfl

theorem visibilityTagAt?_append (text rest : Text) :
    visibilityTagAt? (text ++ '\n' :: rest) = visibilityTagAt? text := by
  have hfeed (visibility : Visibility) : '\n' ∉ visibility.tag := by
    cases visibility <;> decide
  unfold visibilityTagAt?
  congr 1
  funext visibility
  rw [isPrefixOf_append_lineFeed (hfeed visibility)]
  cases h : visibility.tag.isPrefixOf text with
  | false => rfl
  | true => rw [drop_append_of_isPrefixOf h, startsWithWordChar_append_lineFeed]

theorem visibilityTagAt?_eq_none {text : Text} (h : headIs '@' text = false) :
    visibilityTagAt? text = none := by
  refine List.find?_eq_none.mpr fun visibility _ => ?_
  cases text with
  | nil => cases visibility <;> decide
  | cons c text =>
    have hc : ('@' == c) = false := beq_eq_false_iff_ne.mpr (by rintro rfl; cases h)
    rw [Visibility.tag, List.isPrefixOf_cons_cons, hc]
    exact Bool.false_ne_true

theorem visibilityTagsFrom_append (text rest : Text) :
    visibilityTagsFrom (text ++ '\n' :: rest) =
      visibilityTagsFrom text ++ visibilityTagsFrom rest := by
  induction text with
  | nil => rw [List.nil_append, visibilityTagsFrom_cons, visibilityTagAt?_eq_none rfl]; rfl
  | cons c text ih =>
    have hhere := visibilityTagAt?_append (c :: text) rest
    rw [List.cons_append] at hhere
    rw [List.cons_append, visibilityTagsFrom_cons, visibilityTagsFrom_cons, hhere, ih,
      List.append_assoc]

theorem visibilityTagsFrom_joinWith (lines : List Text) :
    visibilityTagsFrom (Text.joinWith ['\n'] lines) = lines.flatMap visibilityTagsFrom := by
  induction lines with
  | nil => rfl
  | cons line lines ih =>
    cases lines with
    | nil => rw [Text.joinWith, List.flatMap_cons, List.flatMap_nil, List.append_nil]
    | cons next lines =>
      rw [Text.joinWith_cons_cons, List.append_assoc, List.cons_append, List.nil_append,
        visibilityTagsFrom_append, ih]
      rfl

theorem visibilityTagsFrom_eq_nil (hat : '@' ∉ text) : visibilityTagsFrom text = [] := by
  induction text with
  | nil => rfl
  | cons c text ih =>
    rw [List.mem_cons, not_or] at hat
    have hc : headIs '@' (c :: text) = false := by simpa [headIs] using Ne.symm hat.1
    rw [visibilityTagsFrom_cons, visibilityTagAt?_eq_none hc, ih hat.2]
    rfl

/-- A line with one `@` names the access modifier that its tag names. -/
theorem visibilityTagsFrom_tag (hlead : '@' ∉ lead) (htext : '@' ∉ text) :
    visibilityTagsFrom (lead ++ '@' :: text) = (visibilityTagAt? ('@' :: text)).toList := by
  induction lead with
  | nil =>
    rw [List.nil_append, visibilityTagsFrom_cons, visibilityTagsFrom_eq_nil htext,
      List.append_nil]
  | cons c lead ih =>
    rw [List.mem_cons, not_or] at hlead
    have hc : headIs '@' (c :: (lead ++ '@' :: text)) = false := by
      simpa [headIs] using Ne.symm hlead.1
    rw [List.cons_append, visibilityTagsFrom_cons, visibilityTagAt?_eq_none hc, ih hlead.2]
    rfl

theorem visibilityTagAt?_tag (visibility : Visibility) (hword : startsWithWordChar text = false) :
    visibilityTagAt? (visibility.tag ++ text) = some visibility := by
  have hself : (visibility.tag.isPrefixOf (visibility.tag ++ text) &&
      !startsWithWordChar ((visibility.tag ++ text).drop visibility.tag.length)) = true := by
    rw [List.drop_left, hword, Bool.not_false, Bool.and_true]
    exact List.isPrefixOf_iff_prefix.mpr (List.prefix_append _ _)
  rw [visibilityTagAt?, Visibility.all]
  cases visibility with
  | pub => exact List.find?_cons_of_pos hself
  | priv =>
    exact (List.find?_cons_of_neg Bool.false_ne_true).trans (List.find?_cons_of_pos hself)
  | prot =>
    refine (List.find?_cons_of_neg Bool.false_ne_true).trans ?_
    exact (List.find?_cons_of_neg Bool.false_ne_true).trans (List.find?_cons_of_pos hself)

/-! ## Parameter tags -/

namespace ParamTag

/-- Tags of distinct names are all kept. -/
theorem keepFirst_of_nodup {tags : List ParamTag} (h : (tags.map (·.name)).Nodup) :
    keepFirst tags = tags := by
  induction tags using List.reverseRecOn with
  | nil => rfl
  | append_singleton tags tag ih =>
    rw [List.map_append, List.nodup_append] at h
    -- The name of the last tag is new, so that it is kept behind the others.
    have hnew : tags.any (·.name == tag.name) = false := by
      rw [List.any_eq_false]
      intro other hother hname
      exact h.2.2 other.name (List.mem_map_of_mem hother) tag.name
        (List.mem_map_of_mem List.mem_cons_self) (beq_iff_eq.mp hname)
    have hkept := ih h.1
    unfold keepFirst at hkept ⊢
    rw [List.foldl_append, hkept, List.foldl_cons, List.foldl_nil, hnew,
      if_neg Bool.false_ne_true]

end ParamTag

end ChangeReview.Documentation
