import ChangeReview.Documentation
import ChangeReview.Proofs.Documentation.ParameterTags

/-!
# The parameter rule

A method's documentation is compared with its parameters from both sides: each parameter that can be
named looks for its tag, and each tag for its parameter. `Complaints` and `IsStray` say what either
side finds, and `discrepancies_parameterName?` that these are the discrepancies that are reported
about parameters, each name at most once.
-/

namespace ChangeReview.Documentation

/-- The parameter or tag that a discrepancy is about. -/
def Discrepancy.parameterName? : Discrepancy → Option Text
  | missingParamTag name => some name
  | missingParamType name => some name
  | extraParamTag name => some name
  | _ => none

/-- What the names, one after another, find wrong with their tags. -/
inductive Complaints (tags : List ParamTag) : List Text → List Discrepancy → Prop
  | nil : Complaints tags [] []
  | untagged {name : Text} {names : List Text} {found : List Discrepancy}
      (htag : ∀ tag ∈ tags, tag.name ≠ name) (hrest : Complaints tags names found) :
      Complaints tags (name :: names) (.missingParamTag name :: found)
  | untyped {tag : ParamTag} {names : List Text} {found : List Discrepancy} (htag : tag ∈ tags)
      (htype : tag.hasType = false) (hrest : Complaints tags names found) :
      Complaints tags (tag.name :: names) (.missingParamType tag.name :: found)
  | documented {tag : ParamTag} {names : List Text} {found : List Discrepancy} (htag : tag ∈ tags)
      (htype : tag.hasType = true) (hrest : Complaints tags names found) :
      Complaints tags (tag.name :: names) found

/-- No parameter of the declaration accounts for the tag. -/
structure IsStray (declaration : Declaration) (tags : List ParamTag) (tag : ParamTag) : Prop where
  no_dot : '.' ∉ tag.name
  undeclared : ∀ parameter ∈ declaration.namedParameters, parameter.name ≠ tag.name
  /-- A tag with fields may stand for a pattern. -/
  no_field : declaration.destructuredParameters ≠ [] →
    ∀ other ∈ tags, ∀ field, other.name ≠ tag.name ++ '.' :: field
  /-- So may one named after the pattern's type, in either case of its ASCII letters. -/
  no_pattern : ∀ pattern ∈ declaration.destructuredParameters,
    pattern.declaredType.map Char.toLower ≠ tag.name.map Char.toLower

/-- What a declaration and the tags of its block find wrong with each other. -/
structure FindsWrong (declaration : Declaration) (tags : List ParamTag)
    (complaints : List Discrepancy) (strays : List ParamTag) : Prop where
  complaints : Complaints tags (declaration.namedParameters.map (·.name)) complaints
  /-- The stray tags stand in the order of the tags. -/
  sublist : strays.Sublist tags
  strays : ∀ tag ∈ tags, tag ∈ strays ↔ IsStray declaration tags tag

/-- The complaints of the parameters, and then the stray tags. -/
def parameterReport (complaints : List Discrepancy) (strays : List ParamTag) : List Discrepancy :=
  complaints ++ strays.map fun tag => .extraParamTag tag.name

variable {declaration : Declaration} {tags : List ParamTag} {tag : ParamTag}

theorem complaints_filterMap (tags : List ParamTag) (names : List Text) :
    Complaints tags names (names.filterMap (parameterDiscrepancy? tags)) := by
  induction names with
  | nil => exact .nil
  | cons name names ih =>
    rw [List.filterMap_cons, parameterDiscrepancy?]
    cases hfind : tags.find? (·.name == name) with
    | none =>
      refine .untagged (fun tag htag hname => ?_) ih
      exact List.find?_eq_none.mp hfind tag htag (beq_iff_eq.mpr hname)
    | some tag =>
      have htag := List.mem_of_find?_eq_some hfind
      have hname := List.find?_some hfind
      obtain rfl : tag.name = name := eq_of_beq hname
      cases htype : tag.hasType with
      | true => simpa [htype] using Complaints.documented htag htype ih
      | false => simpa [htype] using Complaints.untyped htag htype ih

theorem Complaints.sublist {names : List Text} {found : List Discrepancy}
    (h : Complaints tags names found) :
    (found.filterMap Discrepancy.parameterName?).Sublist names := by
  induction h with
  | nil => exact .slnil
  | untagged _ _ ih => exact ih.cons_cons _
  | untyped _ _ _ ih => exact ih.cons_cons _
  | documented _ _ _ ih => exact ih.cons _

theorem namesPattern_iff :
    namesPattern declaration tags tag = true ↔
      (∃ other ∈ tags, ∃ field, other.name = tag.name ++ '.' :: field) ∨
        ∃ pattern ∈ declaration.destructuredParameters,
          pattern.declaredType.map Char.toLower = tag.name.map Char.toLower := by
  have hfield (other : ParamTag) : (tag.name ++ ['.']).isPrefixOf other.name = true ↔
      ∃ field, other.name = tag.name ++ '.' :: field := by
    rw [List.isPrefixOf_iff_prefix]
    constructor
    · rintro ⟨field, hname⟩
      exact ⟨field, by rw [← hname, List.append_assoc]; rfl⟩
    · rintro ⟨field, hname⟩
      exact ⟨field, by rw [hname, List.append_assoc]; rfl⟩
  simp only [namesPattern, Bool.or_eq_true, List.any_eq_true, hfield, Text.eqIgnoreAsciiCase,
    beq_iff_eq]

/-- The tags that are reported are the stray ones. -/
theorem isExtra_iff : isExtra declaration tags tag = true ↔ IsStray declaration tags tag := by
  simp only [isExtra, Bool.and_eq_true, Bool.not_eq_true', List.any_eq_false, beq_iff_eq,
    Bool.and_eq_false_iff]
  constructor
  · rintro ⟨⟨hdot, hdeclared⟩, hpattern⟩
    have hnames (hnamed : namesPattern declaration tags tag = true) :
        declaration.destructuredParameters = [] := by
      rcases hpattern with hempty | hunnamed
      · simpa using hempty
      · rw [hunnamed] at hnamed
        cases hnamed
    refine ⟨fun hmem => hdot '.' hmem rfl, hdeclared, ?_, ?_⟩
    · intro hne other hother field hname
      exact hne (hnames (namesPattern_iff.mpr (.inl ⟨other, hother, field, hname⟩)))
    · intro pattern hmem htype
      have hempty := hnames (namesPattern_iff.mpr (.inr ⟨pattern, hmem, htype⟩))
      rw [hempty] at hmem
      exact List.not_mem_nil hmem
  · rintro ⟨hdot, hdeclared, hfield, hpattern⟩
    refine ⟨⟨fun c hc hdotted => hdot (hdotted ▸ hc), hdeclared⟩, ?_⟩
    by_cases hempty : declaration.destructuredParameters = []
    · left
      simp [hempty]
    · right
      rw [← Bool.not_eq_true, namesPattern_iff]
      rintro (⟨other, hother, field, hname⟩ | ⟨pattern, hmem, htype⟩)
      · exact hfield hempty other hother field hname
      · exact hpattern pattern hmem htype

/-! ## The discrepancies about parameters -/

theorem parameterName?_visibilityDiscrepancies {block : DocBlock} :
    ∀ found ∈ visibilityDiscrepancies declaration block, found.parameterName? = none := by
  intro found hfound
  rw [visibilityDiscrepancies] at hfound
  split at hfound
  · cases hfound
  · split at hfound
    · rw [List.mem_singleton.mp hfound]
      rfl
    · split at hfound
      · cases hfound
      · rw [List.mem_singleton.mp hfound]
        rfl
    · rw [List.mem_singleton.mp hfound]
      rfl

theorem parameterName?_returnDiscrepancies {voidReturn : VoidReturn} {block : DocBlock} :
    ∀ found ∈ returnDiscrepancies voidReturn declaration block, found.parameterName? = none := by
  intro found hfound
  rw [returnDiscrepancies] at hfound
  split at hfound
  · cases hfound
  · rw [List.mem_singleton.mp hfound]
    rfl

theorem isSome_parameterName? {block : DocBlock} :
    ∀ found ∈ parameterDiscrepancies declaration block, found.parameterName?.isSome = true := by
  intro found hfound
  rw [parameterDiscrepancies] at hfound
  split at hfound
  · cases hfound
  · rcases List.mem_append.mp hfound with hmissing | hextra
    · obtain ⟨parameter, _, hparameter⟩ := List.mem_filterMap.mp hmissing
      rw [parameterDiscrepancy?] at hparameter
      split at hparameter
      · cases hparameter
        rfl
      · split at hparameter <;> cases hparameter
        rfl
    · obtain ⟨tag, _, rfl⟩ := List.mem_map.mp hextra
      rfl

/-- The parameter rule alone reports about parameters. -/
theorem filter_discrepancies (hmethod : declaration.isMethod = true) (voidReturn : VoidReturn)
    (block : DocBlock) :
    (discrepancies voidReturn declaration (some block)).filter (·.parameterName?.isSome) =
      parameterDiscrepancies declaration block := by
  have hnone {report : List Discrepancy} (h : ∀ found ∈ report, found.parameterName? = none) :
      report.filter (·.parameterName?.isSome) = [] := by
    refine List.filter_eq_nil_iff.mpr fun found hfound => ?_
    rw [h found hfound]
    exact Bool.false_ne_true
  rw [discrepancies, if_pos hmethod, List.filter_append, List.filter_append,
    hnone parameterName?_visibilityDiscrepancies, hnone parameterName?_returnDiscrepancies,
    List.nil_append, List.nil_append]
  exact List.filter_eq_self.mpr isSome_parameterName?

theorem findsWrong_filter (declaration : Declaration) (tags : List ParamTag) :
    FindsWrong declaration tags
      ((declaration.namedParameters.map (·.name)).filterMap (parameterDiscrepancy? tags))
      (tags.filter (isExtra declaration tags)) where
  complaints := complaints_filterMap tags _
  sublist := List.filter_sublist
  strays tag htag := by rw [List.mem_filter, and_iff_right htag, isExtra_iff]

/-- No name is reported twice, and so none as both missing and stray. -/
theorem FindsWrong.nodup {complaints : List Discrepancy} {strays : List ParamTag}
    (h : FindsWrong declaration tags complaints strays)
    (hdistinct : (declaration.namedParameters.map (·.name)).Nodup)
    (htags : (tags.map (·.name)).Nodup) :
    ((parameterReport complaints strays).filterMap Discrepancy.parameterName?).Nodup := by
  have hstrays : (strays.map fun tag => Discrepancy.extraParamTag tag.name).filterMap
      Discrepancy.parameterName? = strays.map (·.name) := by
    have hname : (Discrepancy.parameterName? ∘ fun tag : ParamTag => .extraParamTag tag.name) =
        some ∘ ParamTag.name := rfl
    rw [List.filterMap_map, hname, List.filterMap_eq_map]
  rw [parameterReport, List.filterMap_append, hstrays, List.nodup_append]
  refine ⟨hdistinct.sublist h.complaints.sublist, htags.sublist (h.sublist.map _), ?_⟩
  intro name hcomplaint stray hstray hsame
  obtain ⟨parameter, hparameter, rfl⟩ := List.mem_map.mp (h.complaints.sublist.subset hcomplaint)
  obtain ⟨tag, htag, rfl⟩ := List.mem_map.mp hstray
  exact ((h.strays tag (h.sublist.subset htag)).mp htag).undeclared parameter hparameter hsame

/-- Each parameter that can be named looks for its tag, in order, and then each tag for its
parameter. -/
theorem discrepancies_parameterName? (hmethod : declaration.isMethod = true)
    (hnamed : declaration.namedParameters ≠ [])
    (hdistinct : (declaration.namedParameters.map (·.name)).Nodup) (voidReturn : VoidReturn)
    (block : DocBlock) :
    ParamTag.FirstTags [] (textsAfterWord "@param" block.text) (ParamTag.ofText block.text) ∧
      ∃ complaints strays,
        FindsWrong declaration (ParamTag.ofText block.text) complaints strays ∧
        (discrepancies voidReturn declaration (some block)).filter (·.parameterName?.isSome) =
          parameterReport complaints strays ∧
        ((parameterReport complaints strays).filterMap Discrepancy.parameterName?).Nodup := by
  have htags := ParamTag.firstTags_ofText block.text
  have hfound := findsWrong_filter declaration (ParamTag.ofText block.text)
  refine ⟨htags, _, _, hfound, ?_, hfound.nodup hdistinct htags.nodup⟩
  have hne : declaration.namedParameters.isEmpty = false := by simpa using hnamed
  rw [filter_discrepancies hmethod, parameterDiscrepancies, hne, if_neg Bool.false_ne_true,
    parameterReport, List.filterMap_map]
  rfl

/-- A method with three parameters and a pattern. -/
def findMethod : Declaration where
  kind := .method
  visibility := none
  name := "find"
  parameters := [⟨"id", "number"⟩, ⟨"key", "string"⟩, ⟨"at", "Date"⟩, ⟨"destructured", "Options"⟩]
  returnType := some "void"
  accessor := none
  lineNumber := 5

/-- Tags with nested braces, an optional name, a field, a repeated name and a mistaken one. -/
def findBlock : DocBlock where
  shape := .singleLine
  first := 3
  last := 3
  text := ("/** @param \x7b\x7bid: number\x7d\x7d id - the id @param [at=now] the time " ++
    "@param \x7bOptions\x7d options - all of them @param \x7bstring\x7d id.x " ++
    "@param id again @param \x7bstring\x7d kye */").toList

theorem discrepancies_parameterName?_findMethod :
    findMethod.isMethod = true ∧ findMethod.namedParameters ≠ [] ∧
      (findMethod.namedParameters.map (·.name)).Nodup ∧
      (discrepancies .exempt findMethod (some findBlock)).filter (·.parameterName?.isSome) =
        [.missingParamTag "key", .missingParamType "at", .extraParamTag "kye"] ∧
      (((discrepancies .exempt findMethod (some findBlock)).filter
        (·.parameterName?.isSome)).filterMap Discrepancy.parameterName?).Nodup := by
  have hdistinct : (findMethod.namedParameters.map (·.name)).Nodup := by decide +kernel
  obtain ⟨-, complaints, strays, -, hreport, hnodup⟩ :=
    discrepancies_parameterName? (show findMethod.isMethod = true from rfl) (by decide) hdistinct
      .exempt findBlock
  exact ⟨rfl, by decide, hdistinct, by decide +kernel, hreport ▸ hnodup⟩

end ChangeReview.Documentation
