import ChangeReview.Documentation
import Mathlib.Data.List.Basic

/-!
# Agreement of a method with its documentation

`Documentation.Agrees` lists what the tags of a block must say about a method: its access modifier,
a result, and a type for each of its parameters and for nothing else. A method that agrees with its
block has no discrepancies, whatever the configuration.
-/

namespace ChangeReview.Documentation

/-- The tags of the text describe the method, each part once. -/
structure Agrees (declaration : Declaration) (text : Text) : Prop where
  /-- The declaration is a method. -/
  method : declaration.kind = .method
  /-- The one access modifier of the text is that of the method. -/
  visibility : ∃ visibility, declaration.visibility = some visibility ∧
    visibilityTags text = [visibility]
  /-- The text has a return tag. -/
  returns : hasReturnTag text = true
  /-- No parameter is a destructuring pattern. -/
  named : ∀ parameter ∈ declaration.parameters, parameter.isDestructured = false
  /-- Each parameter tag writes a type. -/
  typed : ∀ tag ∈ ParamTag.ofText text, tag.hasType = true
  /-- The parameter tags name the parameters. -/
  names : ∀ name, name ∈ (ParamTag.ofText text).map (·.name) ↔
    name ∈ declaration.parameters.map (·.name)

variable {declaration : Declaration} {block : DocBlock} (h : Agrees declaration block.text)
include h

theorem visibilityDiscrepancies_of_agrees : visibilityDiscrepancies declaration block = [] := by
  obtain ⟨visibility, hdeclared, htags⟩ := h.visibility
  simp [visibilityDiscrepancies, hdeclared, htags]

theorem namedParameters_of_agrees : declaration.namedParameters = declaration.parameters := by
  refine List.filter_eq_self.mpr fun parameter hparameter => ?_
  rw [h.named parameter hparameter]
  rfl

/-- A declared parameter has a tag, and the tag has a type. -/
theorem parameterDiscrepancy?_of_agrees {parameter : Parameter}
    (hparameter : parameter ∈ declaration.parameters) :
    parameterDiscrepancy? (ParamTag.ofText block.text) parameter.name = none := by
  obtain ⟨tag, htag, hname⟩ :=
    List.mem_map.mp ((h.names parameter.name).mpr (List.mem_map_of_mem hparameter))
  have hfound : ((ParamTag.ofText block.text).find? (·.name == parameter.name)).isSome = true := by
    rw [List.find?_isSome]
    exact ⟨tag, htag, by simpa using hname⟩
  obtain ⟨found, hfind⟩ := Option.isSome_iff_exists.mp hfound
  rw [parameterDiscrepancy?, hfind]
  simp [h.typed found (List.mem_of_find?_eq_some hfind)]

/-- A tag names a declared parameter. -/
theorem isExtra_of_agrees {tag : ParamTag} (htag : tag ∈ ParamTag.ofText block.text) :
    isExtra declaration (ParamTag.ofText block.text) tag = false := by
  obtain ⟨parameter, hparameter, hname⟩ :=
    List.mem_map.mp ((h.names tag.name).mp (List.mem_map_of_mem htag))
  have hany : declaration.namedParameters.any (·.name == tag.name) = true := by
    rw [namedParameters_of_agrees h, List.any_eq_true]
    exact ⟨parameter, hparameter, by simpa using hname⟩
  simp [isExtra, hany]

theorem parameterDiscrepancies_of_agrees : parameterDiscrepancies declaration block = [] := by
  have hmissing : declaration.parameters.filterMap
      (fun p => parameterDiscrepancy? (ParamTag.ofText block.text) p.name) = [] :=
    List.filterMap_eq_nil_iff.mpr fun _ hparameter => parameterDiscrepancy?_of_agrees h hparameter
  have hextra : (ParamTag.ofText block.text).filter
      (isExtra declaration (ParamTag.ofText block.text)) = [] :=
    List.filter_eq_nil_iff.mpr fun tag htag => by
      rw [isExtra_of_agrees h htag]
      exact Bool.false_ne_true
  rw [parameterDiscrepancies]
  split
  · rfl
  · simp only [namedParameters_of_agrees h, hmissing, hextra, List.map_nil, List.append_nil]

/-- A method that agrees with its documentation has nothing wrong with it. -/
theorem discrepancies_of_agrees (voidReturn : VoidReturn) :
    discrepancies voidReturn declaration (some block) = [] := by
  have hmethod : declaration.isMethod = true := by
    rw [Declaration.isMethod, h.method]
    rfl
  have hreturn : returnDiscrepancies voidReturn declaration block = [] := by
    simp [returnDiscrepancies, h.returns]
  rw [discrepancies, visibilityDiscrepancies_of_agrees h, if_pos hmethod, hreturn,
    parameterDiscrepancies_of_agrees h]
  rfl

end ChangeReview.Documentation
