import ChangeReview.Documentation.Tag
import ChangeReview.Proofs.Nesting.Replacement
import ChangeReview.Proofs.Text.Name

/-!
# The parameter tags of a block

`ParamTag.Reads` says how a parameter tag is written: a type in braces, which may nest brackets, and
then a name, which may stand behind a bracket. `ParamTag.read?_eq_some_iff` says that these tags are
the ones that are read, and `ParamTag.firstTags_ofText` that a block has the first of each name.
-/

namespace ChangeReview.Documentation.ParamTag

/-! ## The parts of a tag -/

section

variable {text after type name : Text}

/-- Behind blanks the text begins with the type in braces. -/
def Annotates (text type after : Text) : Prop :=
  ∃ gap closer, IsBlankText gap ∧ text = gap ++ '{' :: (type ++ closer :: after) ∧
    Nesting.Balanced type ∧ Nesting.isCloser (type.getLastD '{') closer = true

/-- Behind blanks, and perhaps a bracket, the text begins with the name. -/
def Names (text name : Text) : Prop :=
  ∃ gap bracket rest, text = gap ++ (bracket ++ (name ++ rest)) ∧ IsBlankText gap ∧
    (bracket = [] ∨ bracket = ['[']) ∧ startsIdentifier name = true ∧
    (∀ c ∈ name, isNamePart c = true) ∧ ∀ c, rest.head? = some c → isNamePart c = false

/-- The text behind a mark writes the tag. -/
inductive Reads (text : Text) : ParamTag → Prop
  | typed {type after name : Text} (htype : Annotates text type after)
      (hblank : ¬ IsBlankText type) (hname : Names after name) : Reads text ⟨name, true⟩
  | blankType {type after name : Text} (htype : Annotates text type after)
      (hblank : IsBlankText type) (hname : Names after name) : Reads text ⟨name, false⟩
  | untyped {name : Text} (htype : ∀ type after, ¬ Annotates text type after)
      (hname : Names text name) : Reads text ⟨name, false⟩

theorem splitType_eq_some_iff :
    splitType (Text.trimStart text) = (some type, after) ↔ Annotates text type after := by
  have hopener : Nesting.isOpener '{' = true := rfl
  constructor
  · intro h
    obtain ⟨gap, htext, hgap, _⟩ := Text.exists_trimStartBy isBlank text
    change text = gap ++ Text.trimStart text at htext
    rw [splitType] at h
    split at h
    · next hbrace =>
      obtain ⟨rest, hrest⟩ := List.head?_eq_some_iff.mp (eq_of_beq hbrace)
      rw [hrest] at h htext
      split at h
      · next inner _ hclose =>
        cases h
        obtain ⟨type, closer, rfl, rfl, hbalanced, hcloser⟩ :=
          (Nesting.splitAtClose_eq_some_iff hopener).mp hclose
        exact ⟨gap, closer, hgap, htext, hbalanced, hcloser⟩
      · cases h
    · cases h
  · rintro ⟨gap, closer, hgap, rfl, hbalanced, hcloser⟩
    have hclose := Nesting.splitAtClose_bracketed hopener hbalanced hcloser after
    rw [Text.trimStart_append_cons hgap rfl, splitType]
    simp only [headIs, List.head?_cons, BEq.rfl, ↓reduceIte, hclose, List.drop_succ_cons,
      List.drop_zero]

theorem splitType_eq_none (h : ∀ type after, ¬ Annotates text type after) :
    splitType (Text.trimStart text) = (none, Text.trimStart text) := by
  cases hsplit : splitType (Text.trimStart text) with
  | mk annotation after =>
    cases annotation with
    | some type => exact absurd (splitType_eq_some_iff.mp hsplit) (h type after)
    | none =>
      rw [splitType] at hsplit
      split at hsplit
      · split at hsplit <;> simp_all
      · simp_all

theorem isNamePart_of_isIdentifierStart {c : Char} (h : isIdentifierStart c = true) :
    isNamePart c = true := by
  rw [isNamePart, isIdentifierPart_of_isAsciiNamePart (isAsciiNamePart_of_isIdentifierStart h)]
  rfl

theorem readName?_eq_some_iff : readName? text = some name ↔ Names text name := by
  constructor
  · intro h
    obtain ⟨gap, htext, hgap, _⟩ := Text.exists_trimStartBy isBlank text
    change text = gap ++ Text.trimStart text at htext
    obtain ⟨⟨found, rest⟩, htake, rfl⟩ := Option.map_eq_some_iff.mp h
    obtain ⟨hbody, hstarts, hparts, hrest⟩ :=
      (takeName_eq_some_iff fun _ => isNamePart_of_isIdentifierStart).mp htake
    split at hbody
    · next hbracket =>
      obtain ⟨body, hstart⟩ := List.head?_eq_some_iff.mp (eq_of_beq hbracket)
      rw [hstart] at htext hbody
      simp only [List.drop_succ_cons, List.drop_zero] at hbody
      refine ⟨gap, ['['], rest, ?_, hgap, .inr rfl, hstarts, hparts, hrest⟩
      rw [htext, hbody]
      rfl
    · refine ⟨gap, [], rest, ?_, hgap, .inl rfl, hstarts, hparts, hrest⟩
      rw [List.nil_append, ← hbody, ← htext]
  · rintro ⟨gap, bracket, rest, rfl, hgap, hbracket, hstarts, hparts, hrest⟩
    have htake := takeName_append_of_starts hstarts hparts hrest
    rcases hbracket with rfl | rfl
    · have hstart := startsIdentifier_append hstarts rest
      have hno : headIs '[' (name ++ rest) = false := by
        obtain ⟨c, name, rfl⟩ := List.exists_cons_of_ne_nil
          (show name ≠ [] by rintro rfl; cases hstarts)
        have hc : isIdentifierStart c = true := by simpa [startsIdentifier] using hstarts
        have hne : c ≠ '[' := by
          rintro rfl
          cases hc
        simpa [headIs] using hne
      rw [List.nil_append, readName?, trimStart_of_startsIdentifier hgap hstart]
      simp only [hno, Bool.false_eq_true, ↓reduceIte, htake, Option.map_some]
    · rw [List.cons_append, List.nil_append, readName?, Text.trimStart_append_cons hgap rfl]
      simp only [headIs, List.head?_cons, BEq.rfl, ↓reduceIte, List.drop_succ_cons, List.drop_zero,
        htake, Option.map_some]

theorem names_trimStart_iff : Names (Text.trimStart text) name ↔ Names text name := by
  have hidem : Text.trimStart (Text.trimStart text) = Text.trimStart text :=
    Text.trimStartBy_of_head (Text.exists_trimStartBy isBlank text).choose_spec.2.2
  rw [← readName?_eq_some_iff, ← readName?_eq_some_iff, readName?, hidem, readName?]

theorem isEmpty_trim (type : Text) :
    (Text.trim type).isEmpty = decide (IsBlankText type) := by
  rw [Bool.eq_iff_iff, List.isEmpty_iff, Text.trim_eq_nil_iff, decide_eq_true_iff]

/-- A tag is read exactly if it is written. -/
theorem read?_eq_some_iff {tag : ParamTag} : read? text = some tag ↔ Reads text tag := by
  constructor
  · intro h
    rw [read?] at h
    cases hsplit : splitType (Text.trimStart text) with
    | mk annotation after =>
      rw [hsplit] at h
      obtain ⟨name, hname, rfl⟩ := Option.map_eq_some_iff.mp h
      rw [readName?_eq_some_iff] at hname
      cases annotation with
      | some type =>
        have htype := splitType_eq_some_iff.mp hsplit
        rw [Option.any_some, isEmpty_trim]
        by_cases hblank : IsBlankText type
        · rw [decide_eq_true hblank]
          exact .blankType htype hblank hname
        · rw [decide_eq_false hblank]
          exact .typed htype hblank hname
      | none =>
        have htype : ∀ type after, ¬ Annotates text type after := fun type after hannotates => by
          rw [splitType_eq_some_iff.mpr hannotates] at hsplit
          cases hsplit
        rw [splitType_eq_none htype] at hsplit
        cases hsplit
        exact .untyped htype (names_trimStart_iff.mp hname)
  · intro h
    cases h with
    | typed htype hblank hname =>
      rw [read?, splitType_eq_some_iff.mpr htype]
      simp [readName?_eq_some_iff.mpr hname, isEmpty_trim, hblank]
    | blankType htype hblank hname =>
      rw [read?, splitType_eq_some_iff.mpr htype]
      simp [readName?_eq_some_iff.mpr hname, isEmpty_trim, hblank]
    | untyped htype hname =>
      rw [read?, splitType_eq_none htype]
      simp [readName?_eq_some_iff.mpr (names_trimStart_iff.mpr hname)]

end

/-! ## The first tag of each name -/

/-- The tags written behind the marks, without those whose name was seen before. -/
inductive FirstTags : List Text → List Text → List ParamTag → Prop
  | nil {seen : List Text} : FirstTags seen [] []
  | unreadable {seen afters : List Text} {after : Text} {tags : List ParamTag}
      (hread : ∀ tag, ¬ Reads after tag) (hrest : FirstTags seen afters tags) :
      FirstTags seen (after :: afters) tags
  | repeated {seen afters : List Text} {after : Text} {tag : ParamTag} {tags : List ParamTag}
      (hread : Reads after tag) (hseen : tag.name ∈ seen) (hrest : FirstTags seen afters tags) :
      FirstTags seen (after :: afters) tags
  | first {seen afters : List Text} {after : Text} {tag : ParamTag} {tags : List ParamTag}
      (hread : Reads after tag) (hseen : tag.name ∉ seen)
      (hrest : FirstTags (seen ++ [tag.name]) afters tags) :
      FirstTags seen (after :: afters) (tag :: tags)

/-- Keeping the first tags goes on behind the tags that are kept already. -/
theorem exists_firstTags_foldl (kept : List ParamTag) (afters : List Text) :
    ∃ tags, FirstTags (kept.map ParamTag.name) afters tags ∧
      (afters.filterMap read?).foldl
        (fun kept tag => if kept.any (·.name == tag.name) then kept else kept ++ [tag]) kept =
          kept ++ tags := by
  -- The names seen before a mark are those of the tags kept up to it.
  induction afters generalizing kept with
  | nil => exact ⟨[], .nil, (List.append_nil kept).symm⟩
  | cons after afters ih =>
    cases hread : read? after with
    | none =>
      obtain ⟨tags, hfirst, hfold⟩ := ih kept
      refine ⟨tags, .unreadable (fun tag htag => ?_) hfirst, ?_⟩
      · rw [read?_eq_some_iff.mpr htag] at hread
        cases hread
      · rw [List.filterMap_cons_none hread, hfold]
    | some tag =>
      have htag := read?_eq_some_iff.mp hread
      rw [List.filterMap_cons_some hread, List.foldl_cons]
      have hseen : (kept.any (·.name == tag.name)) = true ↔ tag.name ∈ kept.map ParamTag.name := by
        simp
      by_cases hmem : tag.name ∈ kept.map ParamTag.name
      · obtain ⟨tags, hfirst, hfold⟩ := ih kept
        exact ⟨tags, .repeated htag hmem hfirst, by rw [if_pos (hseen.mpr hmem), hfold]⟩
      · obtain ⟨tags, hfirst, hfold⟩ := ih (kept ++ [tag])
        rw [List.map_append, List.map_singleton] at hfirst
        refine ⟨tag :: tags, .first htag hmem hfirst, ?_⟩
        rw [if_neg (hseen.not.mpr hmem), hfold, List.append_assoc]
        rfl

theorem firstTags_ofText (text : Text) :
    FirstTags [] (textsAfterWord "@param" text) (ofText text) := by
  obtain ⟨tags, hfirst, hfold⟩ := exists_firstTags_foldl [] (textsAfterWord "@param" text)
  rw [List.nil_append] at hfold
  rw [ofText, keepFirst, hfold]
  exact hfirst

theorem FirstTags.notMem_seen {seen afters : List Text} {tags : List ParamTag}
    (h : FirstTags seen afters tags) : ∀ tag ∈ tags, tag.name ∉ seen := by
  induction h with
  | nil => exact fun _ hmem => absurd hmem List.not_mem_nil
  | unreadable _ _ ih => exact ih
  | repeated _ _ _ ih => exact ih
  | first _ hseen _ ih =>
    refine List.forall_mem_cons.mpr ⟨hseen, fun tag htag hmem => ?_⟩
    exact ih tag htag (List.mem_append_left _ hmem)

theorem FirstTags.nodup {seen afters : List Text} {tags : List ParamTag}
    (h : FirstTags seen afters tags) : (tags.map ParamTag.name).Nodup := by
  induction h with
  | nil => exact List.nodup_nil
  | unreadable _ _ ih => exact ih
  | repeated _ _ _ ih => exact ih
  | first _ _ hrest ih =>
    refine List.nodup_cons.mpr ⟨fun hmem => ?_, ih⟩
    obtain ⟨tag, htag, hname⟩ := List.mem_map.mp hmem
    exact hrest.notMem_seen tag htag (hname ▸ List.mem_append_right _ List.mem_cons_self)

end ChangeReview.Documentation.ParamTag
