import ChangeReview.Proofs.Documentation.ParameterRule
import Mathlib.Data.List.Nodup

/-!
# A renamed parameter

A parameter that is renamed in the code but not in the documentation is found twice, once from
either side: its new name has no tag, and the tag of its old name has no parameter. Nothing else of
a documentation that was right before is found wrong by it.
-/

namespace ChangeReview

/-- The declaration after its parameter `old` was renamed to `new`. -/
def Declaration.rename (declaration : Declaration) (old new : Text) : Declaration :=
  { declaration with
    parameters := declaration.parameters.map fun parameter =>
      if parameter.name = old then { parameter with name := new } else parameter }

namespace Documentation

variable {declaration : Declaration} {tags : List ParamTag} {block : DocBlock}
  {voidReturn : VoidReturn} {old new : Text}

/-! ## Declarations without patterns -/

theorem namedParameters_of_no_pattern (h : declaration.destructuredParameters = []) :
    declaration.namedParameters = declaration.parameters := by
  refine List.filter_eq_self.mpr fun parameter hparameter => ?_
  have hplain := List.filter_eq_nil_iff.mp h parameter hparameter
  rw [Bool.not_eq_true] at hplain
  rw [hplain]
  rfl

theorem isStray_iff_of_no_pattern (h : declaration.destructuredParameters = []) {tag : ParamTag} :
    IsStray declaration tags tag ↔
      '.' ∉ tag.name ∧ tag.name ∉ declaration.parameters.map (·.name) := by
  have hdeclared : tag.name ∉ declaration.parameters.map (·.name) ↔
      ∀ parameter ∈ declaration.parameters, parameter.name ≠ tag.name := by
    simp [List.mem_map]
  constructor
  · intro hstray
    have hundeclared := hstray.undeclared
    rw [namedParameters_of_no_pattern h] at hundeclared
    exact ⟨hstray.no_dot, hdeclared.mpr hundeclared⟩
  · rintro ⟨hdot, hundeclared⟩
    refine ⟨hdot, ?_, fun hne => absurd h hne, fun pattern hpattern => ?_⟩
    · rw [namedParameters_of_no_pattern h]
      exact hdeclared.mp hundeclared
    · rw [h] at hpattern
      cases hpattern

theorem parameterDiscrepancies_eq (hpattern : declaration.destructuredParameters = [])
    (hne : declaration.parameters ≠ []) :
    parameterDiscrepancies declaration block =
      (declaration.parameters.map (·.name)).filterMap
          (parameterDiscrepancy? (ParamTag.ofText block.text)) ++
        ((ParamTag.ofText block.text).filter (isExtra declaration (ParamTag.ofText block.text))).map
          fun tag => .extraParamTag tag.name := by
  have hempty : declaration.parameters.isEmpty = false := by simpa using hne
  rw [parameterDiscrepancies, namedParameters_of_no_pattern hpattern, hempty,
    if_neg Bool.false_ne_true, List.filterMap_map]
  rfl

/-! ## A right documentation -/

/-- Each name has a tag with a type, and each tag without a dot names a parameter. -/
structure Matches (names : List Text) (tags : List ParamTag) : Prop where
  documented : ∀ name ∈ names, parameterDiscrepancy? tags name = none
  declared : ∀ tag ∈ tags, '.' ∉ tag.name → tag.name ∈ names

theorem matches_of_parameterDiscrepancies (hpattern : declaration.destructuredParameters = [])
    (hne : declaration.parameters ≠ []) (h : parameterDiscrepancies declaration block = []) :
    Matches (declaration.parameters.map (·.name)) (ParamTag.ofText block.text) := by
  rw [parameterDiscrepancies_eq hpattern hne, List.append_eq_nil_iff, List.map_eq_nil_iff,
    List.filterMap_eq_nil_iff, List.filter_eq_nil_iff] at h
  refine ⟨h.1, fun tag htag hdot => ?_⟩
  by_contra hundeclared
  exact h.2 tag htag (isExtra_iff.mpr ((isStray_iff_of_no_pattern hpattern).mpr
    ⟨hdot, hundeclared⟩))

theorem Matches.exists_tag {names : List Text} (h : Matches names tags) {name : Text}
    (hname : name ∈ names) : ∃ tag ∈ tags, tag.name = name := by
  by_contra hno
  have hfind : tags.find? (·.name == name) = none :=
    List.find?_eq_none.mpr fun tag htag hsame => hno ⟨tag, htag, eq_of_beq hsame⟩
  have hdocumented := h.documented name hname
  rw [parameterDiscrepancy?, hfind] at hdocumented
  cases hdocumented

/-! ## Renaming -/

theorem map_name_rename (declaration : Declaration) (old new : Text) :
    (declaration.rename old new).parameters.map (·.name) =
      (declaration.parameters.map (·.name)).map fun name => if name = old then new else name := by
  rw [Declaration.rename, List.map_map, List.map_map]
  refine List.map_congr_left fun parameter _ => ?_
  simp only [Function.comp_apply]
  split <;> rfl

theorem destructuredParameters_rename (h : declaration.destructuredParameters = [])
    (hnew : new ≠ Parameter.destructuredName) :
    (declaration.rename old new).destructuredParameters = [] := by
  refine List.filter_eq_nil_iff.mpr fun parameter hparameter => ?_
  obtain ⟨before, hbefore, rfl⟩ := List.mem_map.mp hparameter
  split
  · simpa [Parameter.isDestructured] using hnew
  · exact List.filter_eq_nil_iff.mp h before hbefore

/-- Where names are distinct, renaming changes one place of their list. -/
theorem map_rename_append {before after : List Text} (h : (before ++ old :: after).Nodup) :
    (before ++ old :: after).map (fun name => if name = old then new else name) =
      before ++ new :: after := by
  rw [List.nodup_middle, List.nodup_cons, List.mem_append, not_or] at h
  have hkeep {names : List Text} (hold : old ∉ names) :
      names.map (fun name => if name = old then new else name) = names := by
    conv_rhs => rw [← List.map_id names]
    refine List.map_congr_left fun name hname => ?_
    rw [if_neg (ne_of_mem_of_not_mem hname hold)]
    rfl
  rw [List.map_append, List.map_cons, if_pos rfl, hkeep h.1.1, hkeep h.1.2]

/-- The tag of the old name is the only one that lost its parameter. -/
theorem filter_name_eq {tag : ParamTag} (htag : tag ∈ tags) (hdistinct : (tags.map (·.name)).Nodup)
    (hname : tag.name = old) : tags.filter (·.name = old) = [tag] := by
  obtain ⟨before, after, rfl⟩ := List.append_of_mem htag
  rw [List.map_append, List.map_cons, List.nodup_middle, List.nodup_cons, List.mem_append,
    not_or, hname] at hdistinct
  have hnone {others : List ParamTag} (hold : old ∉ others.map (·.name)) :
      others.filter (·.name = old) = [] :=
    List.filter_eq_nil_iff.mpr fun other hother hsame =>
      hold (List.mem_map.mpr ⟨other, hother, by simpa using hsame⟩)
  rw [List.filter_append, List.filter_cons_of_pos (by simpa using hname), hnone hdistinct.1.1,
    hnone hdistinct.1.2]
  rfl

section

variable {before after : List Text} (h : Matches (before ++ old :: after) tags)
include h

/-- Only the new name looks for its tag in vain. -/
theorem Matches.filterMap_rename (huntagged : new ∉ tags.map (·.name)) :
    (before ++ new :: after).filterMap (parameterDiscrepancy? tags) = [.missingParamTag new] := by
  have hfind : tags.find? (·.name == new) = none :=
    List.find?_eq_none.mpr fun tag htag hsame =>
      huntagged (List.mem_map.mpr ⟨tag, htag, eq_of_beq hsame⟩)
  have hkept {names : List Text} (hsub : names ⊆ before ++ old :: after) :
      names.filterMap (parameterDiscrepancy? tags) = [] :=
    List.filterMap_eq_nil_iff.mpr fun name hname => h.documented name (hsub hname)
  rw [List.filterMap_append, List.filterMap_cons, parameterDiscrepancy?, hfind, hkept (by simp),
    hkept (by simp)]
  rfl

/-- Only the tag of the old name looks for its parameter in vain. -/
theorem Matches.undeclared_rename_iff (hdot : '.' ∉ old) (hgone : old ∉ before ++ new :: after)
    {tag : ParamTag} (htag : tag ∈ tags) :
    ('.' ∉ tag.name ∧ tag.name ∉ before ++ new :: after) ↔ tag.name = old := by
  constructor
  · rintro ⟨hplain, hundeclared⟩
    have hdeclared := h.declared tag htag hplain
    rw [List.mem_append, List.mem_cons] at hdeclared hundeclared
    by_contra hname
    rcases hdeclared with hbefore | hsame | hafter
    · exact hundeclared (.inl hbefore)
    · exact hname hsame
    · exact hundeclared (.inr (.inr hafter))
  · rintro rfl
    exact ⟨hdot, hgone⟩

end

theorem parameterDiscrepancies_rename (hpattern : declaration.destructuredParameters = [])
    (hdistinct : (declaration.parameters.map (·.name)).Nodup)
    (hclean : parameterDiscrepancies declaration block = [])
    (hold : old ∈ declaration.parameters.map (·.name)) (hdot : '.' ∉ old)
    (hnew : new ∉ declaration.parameters.map (·.name))
    (huntagged : new ∉ (ParamTag.ofText block.text).map (·.name))
    (hallowed : new ≠ Parameter.destructuredName) :
    parameterDiscrepancies (declaration.rename old new) block =
      [.missingParamTag new, .extraParamTag old] := by
  have hne : declaration.parameters ≠ [] := by
    intro hnil
    rw [hnil] at hold
    cases hold
  have hmatches := matches_of_parameterDiscrepancies hpattern hne hclean
  obtain ⟨tag, htag, hname⟩ := hmatches.exists_tag hold
  have hpattern' : (declaration.rename old new).destructuredParameters = [] :=
    destructuredParameters_rename hpattern hallowed
  have hne' : (declaration.rename old new).parameters ≠ [] := by
    simpa [Declaration.rename] using hne
  have hfresh : old ≠ new := ne_of_mem_of_not_mem hold hnew
  obtain ⟨before, after, hnames⟩ := List.append_of_mem hold
  rw [hnames] at hmatches hdistinct
  have hrenamed : (declaration.rename old new).parameters.map (·.name) =
      before ++ new :: after := by
    rw [map_name_rename, hnames, map_rename_append hdistinct]
  have hgone : old ∉ before ++ new :: after := by
    rw [List.nodup_middle, List.nodup_cons, List.mem_append] at hdistinct
    simpa [hfresh] using hdistinct.1
  have hextra : (ParamTag.ofText block.text).filter
      (isExtra (declaration.rename old new) (ParamTag.ofText block.text)) =
        (ParamTag.ofText block.text).filter (·.name = old) := by
    refine List.filter_congr fun tag htag => ?_
    rw [Bool.eq_iff_iff, isExtra_iff, isStray_iff_of_no_pattern hpattern', hrenamed,
      decide_eq_true_iff]
    exact hmatches.undeclared_rename_iff hdot hgone htag
  rw [parameterDiscrepancies_eq hpattern' hne', hrenamed, hmatches.filterMap_rename huntagged,
    hextra, filter_name_eq htag (ParamTag.firstTags_ofText block.text).nodup hname,
    List.map_singleton, hname]
  rfl

/-- Renaming a parameter of a rightly documented method is found as two discrepancies, whatever the
configuration says of return tags. -/
theorem discrepancies_rename (hmethod : declaration.isMethod = true)
    (hpattern : declaration.destructuredParameters = [])
    (hdistinct : (declaration.parameters.map (·.name)).Nodup)
    (hclean : discrepancies voidReturn declaration (some block) = [])
    (hold : old ∈ declaration.parameters.map (·.name)) (hdot : '.' ∉ old)
    (hnew : new ∉ declaration.parameters.map (·.name))
    (huntagged : new ∉ (ParamTag.ofText block.text).map (·.name))
    (hallowed : new ≠ Parameter.destructuredName) :
    (discrepancies voidReturn (declaration.rename old new) (some block)).map
        (fun found => (found, found.isCritical)) =
      [(.missingParamTag new, false), (.extraParamTag old, true)] := by
  rw [discrepancies, if_pos hmethod, List.append_eq_nil_iff, List.append_eq_nil_iff] at hclean
  obtain ⟨hvisibility, hreturn, hparameters⟩ := hclean
  -- The other two rules do not look at the parameters.
  have hvisibility' : visibilityDiscrepancies (declaration.rename old new) block = [] := hvisibility
  have hreturn' : returnDiscrepancies voidReturn (declaration.rename old new) block = [] := hreturn
  have hmethod' : (declaration.rename old new).isMethod = true := hmethod
  rw [discrepancies, if_pos hmethod', hvisibility', hreturn',
    parameterDiscrepancies_rename hpattern hdistinct hparameters hold hdot hnew huntagged hallowed]
  rfl

/-- A method with three parameters. -/
def moveMethod : Declaration where
  kind := .method
  visibility := some .pub
  name := "move"
  parameters := [⟨"from", "Point"⟩, ⟨"total", "number"⟩, ⟨"options", "Options"⟩]
  returnType := some "void"
  accessor := none
  lineNumber := 9

/-- Its documentation, with a field of a parameter and no return tag. -/
def moveBlock : DocBlock where
  shape := .multiLine
  first := 1
  last := 7
  text := Text.joinWith ['\n']
    ["/**", " * @public", " * @param \x7bPoint\x7d from - where",
      " * @param \x7bOptions\x7d options", " * @param \x7b\x7bx: number\x7d\x7d options.by",
      " * @param \x7bnumber\x7d total", " */"]

theorem discrepancies_rename_moveMethod :
    discrepancies .exempt moveMethod (some moveBlock) = [] ∧
      (discrepancies .exempt (moveMethod.rename "total" "amount") (some moveBlock)).map
          (fun found => (found, found.isCritical)) =
        [(.missingParamTag "amount", false), (.extraParamTag "total", true)] := by
  have hclean : discrepancies .exempt moveMethod (some moveBlock) = [] := by decide +kernel
  have htags : (ParamTag.ofText moveBlock.text).map (·.name) =
      ["from", "options", "options.by", "total"].map String.toList := by decide +kernel
  refine ⟨hclean, discrepancies_rename (show moveMethod.isMethod = true from rfl) (by decide)
    (by decide +kernel) hclean (by decide) (by decide) (by decide) ?_ (by decide)⟩
  rw [htags]
  decide

end Documentation

end ChangeReview
