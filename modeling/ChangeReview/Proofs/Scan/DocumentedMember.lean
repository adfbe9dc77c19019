import ChangeReview.Proofs.Documentation.DocumentedMethod
import ChangeReview.Proofs.Scan.Findings

/-!
# Documented members

A method below its own documentation is not reported. The line is recognised as the method, the walk
upward finds the block, and the two agree, so only the detectors of single lines can say anything
about the line, whatever is configured, whatever was changed and whatever stands around the member.
-/

namespace ChangeReview.Scan

variable {config : Config} {path : Path} {upper lower : List Text} {onChangedLine : Bool}

/-- A method that agrees with its block and has an access modifier and a return type is in order. -/
theorem declarationViolations_of_agrees {declaration : Declaration} {block : DocBlock}
    (hagrees : Documentation.Agrees declaration block.text)
    (hvisibility : declaration.visibility.isSome = true)
    (hreturn : declaration.returnType.isSome = true) :
    declarationViolations config path onChangedLine declaration (some block) = [] := by
  have haccess : lacksAccessModifier config declaration = false := by
    rw [lacksAccessModifier, Option.isNone_eq_false_iff.mpr hvisibility, Bool.and_false]
  have htype : lacksReturnType config declaration = false := by
    rw [lacksReturnType, Option.isNone_eq_false_iff.mpr hreturn, Bool.and_false]
  rw [declarationViolations, Documentation.discrepancies_of_agrees hagrees, haccess, htype]
  rfl

theorem declarationFindings_of_documented (method : DocumentedMethod) :
    declarationFindings Declaration.ofLine? config path (upper ++ method.lines ++ lower)
      onChangedLine (method.indent ++ method.text)
      (upper.length + method.block.length + method.prelude.length) = [] := by
  have habove := @DocBlock.above?_block upper _ _ _ _ method.isBlock method.prelude_lines
    ((method.indent ++ method.text) :: lower)
  change DocBlock.above? (upper ++ method.block ++ method.prelude ++ _)
    (upper.length + method.block.length + method.prelude.length) = _ at habove
  rw [declarationFindings, method.ofLine?_text method.indent_blank, method.append_lines, habove]
  exact declarationViolations_of_agrees (method.agrees _) rfl rfl

/-- On the line of a documented method only the detectors of single lines find anything. -/
theorem byDetector_of_documented (method : DocumentedMethod) {content : Text}
    {changed : ChangedLines} (hlines : Text.lines content = upper ++ method.lines ++ lower)
    {v : Violation} (hv : v ∈ violations config path content changed)
    (hline : v.line = upper.length + method.lines.length) : v.rule.byDetector = true := by
  rw [violations, violationsWith_eq_flatMap, List.mem_flatMap] at hv
  obtain ⟨⟨line, index⟩, hentry, hv⟩ := hv
  -- The number of the finding tells the line that it is about.
  have hindex : index = upper.length + method.block.length + method.prelude.length := by
    have hnumber := line_of_mem_lineViolations Declaration.ofLine?_keepsLineNumber hv
    have hlength := method.length_lines
    omega
  have htext : line = method.indent ++ method.text := by
    have hget := List.mem_zipIdx_iff_getElem?.mp hentry
    have hposition : index = (upper ++ method.block ++ method.prelude).length := by
      rw [hindex, List.length_append, List.length_append]
    rw [hlines, method.append_lines, hposition, List.getElem?_append_right (Nat.le_refl _),
      Nat.sub_self] at hget
    exact (Option.some.inj hget).symm
  subst hindex htext
  rw [lineViolations_eq, List.mem_append] at hv
  rcases hv with hv | hv <;> split at hv
  · exact (detectorViolations_spec hv).2.1
  · cases hv
  · -- The declaration on the line is in order.
    rw [hlines, declarationFindings_of_documented] at hv
    cases hv
  · cases hv

/-- A method whose types nest brackets, arrows and commas, documented in another order. -/
def nestedMethod : DocumentedMethod where
  visibility := .prot
  modifiers := ["static", "async"]
  accessor := none
  name := "load"
  parameters :=
    [⟨"TODO", "(key: string, at: Map<string, number>) => void"⟩, ⟨"from", " string"⟩]
  returnType := "Promise<Array<string>>"
  indent := "  "
  description := "Loads what /* was left."
  notes :=
    [⟨⟨"from", "string"⟩, "where to look"⟩,
      ⟨⟨"TODO", "(key: string, at: Map<string, number>) => void"⟩, ""⟩]
  returnRemark := "what was found"
  prelude := ["", "  @Memo(\x7b ttl: 5 \x7d)"]
  modifiers_allowed := by decide
  name_ascii := by decide
  name_allowed := by decide
  parameters_plain := by decide
  returnType_plain := by decide
  returnType_brace := by decide
  indent_blank := by decide
  description_remark := by decide
  notes_plain := by decide
  notes_remark := by decide
  notes_names := by decide
  names_distinct := by decide
  names_allowed := by decide
  returnRemark_remark := by decide
  prelude_lines := by
    have hdecorator : DocBlock.IsPreludeLine
        ("  ".toList ++ '@' :: ("Memo".toList ++ '(' :: "\x7b ttl: 5 \x7d)".toList)) :=
      .decorator (by decide) (by decide) (by decide) (by decide) (by decide)
    exact List.forall_mem_cons.mpr ⟨.blank (by decide), List.forall_mem_singleton.mpr hdecorator⟩

/-- The method in its class. -/
def nestedFile : Text :=
  Text.joinWith ['\n'] ([("class Store \x7b" : Text)] ++ nestedMethod.lines ++ [("\x7d" : Text)])

/-- The one finding on the method's line is about the name of its first parameter. -/
theorem byDetector_of_documented_nestedMethod :
    ∃ v ∈ violations {} "store.ts" nestedFile (.wholeFile 12),
      v.line = 11 ∧ v.rule.byDetector = true := by
  have hlines : Text.lines nestedFile =
      [("class Store \x7b" : Text)] ++ nestedMethod.lines ++ [("\x7d" : Text)] := by decide +kernel
  have hv : (⟨"store.ts", 11, .warning, .todo, Detector.message .todo, true⟩ : Violation) ∈
      violations {} "store.ts" nestedFile (.wholeFile 12) := by decide +kernel
  exact ⟨_, hv, rfl, byDetector_of_documented nestedMethod hlines hv rfl⟩

end ChangeReview.Scan
