import ChangeReview.Proofs.Documentation.ParameterRule
import ChangeReview.Proofs.Scan.Findings
import Mathlib.Data.List.Nodup
import Mathlib.Data.List.Sigma

/-!
# The order of findings

The findings of a scan stand in the order of their lines, and on each line in the order of the
checks. `DocumentationRules` and `DeclaredRules` describe what one declaration can be found to
break, `IsOrderly` the findings of a whole file, and `Scan.violations_isOrderly` says that these are
the findings of every scan.
-/

namespace ChangeReview

open Documentation (Discrepancy)

/-- The documentation says something else than the declaration, rather than nothing. -/
inductive Documentation.Discrepancy.IsContradiction : Discrepancy → Prop
  | modifier (expected found : Visibility) : IsContradiction (.visibilityTagMismatch expected found)
  | extraTag (name : Text) : IsContradiction (.extraParamTag name)

namespace Scan

/-- The rules that detectors find broken on a line, each once. -/
structure DetectedRules (config : Config) (changed : ChangedLines) (number : Nat) (line : Text)
    (rules : List Rule) : Prop where
  sublist : rules.Sublist [.debugStatement, .breakpoint, .todo, .fixme]
  mem_iff : ∀ detector : Detector, detector.rule ∈ rules ↔
    changed.contains number = true ∧ detector.isEnabled config.detectors = true ∧
      detector.fires line = true

/-- The rules on documentation that a declaration below a block breaks. The tag of its access
modifier is looked at only if one is written. -/
inductive DocumentationRules (declaration : Declaration) : Option DocBlock → List Rule → Prop
  | undocumented : DocumentationRules declaration none [.missingDocumentation]
  | method {block : DocBlock} {modifier result : List Rule} (hmethod : declaration.isMethod = true)
      (hmodifier : modifier.Sublist [.visibilityTag])
      (hwritten : declaration.visibility = none → modifier = [])
      (hresult : result.Sublist [.returnTag]) (tags : Nat) :
      DocumentationRules declaration (some block)
        (modifier ++ (result ++ List.replicate tags .paramTag))
  | reactive {block : DocBlock} {modifier format : List Rule}
      (hreactive : declaration.isMethod = false) (hmodifier : modifier.Sublist [.visibilityTag])
      (hwritten : declaration.visibility = none → modifier = [])
      (hformat : format.Sublist [.reactiveDocFormat]) :
      DocumentationRules declaration (some block) (modifier ++ format)

/-- The rules that a declaration breaks, if a line holds one. -/
inductive DeclaredRules (above? : Option DocBlock) : Option Declaration → List Rule → Prop
  | absent : DeclaredRules above? none []
  | present {declaration : Declaration} {documentation own : List Rule}
      (hdocumentation : DocumentationRules declaration above? documentation)
      (hown : own.Sublist [.missingAccessModifier, .missingReturnType])
      (hunwritten : .missingAccessModifier ∈ own → declaration.visibility = none) :
      DeclaredRules above? (some declaration) (documentation ++ own)

/-- The findings of a file, in order. -/
structure IsOrderly (recognize : Recognizer) (config : Config) (path : Path) (lines : List Text)
    (changed : ChangedLines) (findings : List Violation) : Prop where
  sorted : findings.Pairwise (·.line ≤ ·.line)
  bounded : ∀ v ∈ findings, 1 ≤ v.line ∧ v.line ≤ lines.length
  /-- On a line come the detectors, and then the declaration, if it is near a change. -/
  rules : ∀ index line, lines[index]? = some line → ∃ detected declared,
    (findings.filter (·.line == index + 1)).map (·.rule) = detected ++ declared ∧
      DetectedRules config changed (index + 1) line detected ∧
      DeclaredRules (DocBlock.above? lines index)
        (if changed.isNear (index + 1) config.documentation.nearWindow then
          recognize line (index + 1) else none) declared
  exclusive : ∀ v ∈ findings, ∀ w ∈ findings,
    v.rule = .visibilityTag → w.rule = .missingAccessModifier → v.line ≠ w.line
  /-- The errors are breakpoints and what documentation says against its declaration. -/
  errors : ∀ v ∈ findings, v.severity = .error ↔ v.rule = .breakpoint ∨
    ∃ declaration found, Discrepancy.IsContradiction found ∧
      v = discrepancyViolation path declaration v.onChangedLine found

variable {recognize : Recognizer} {config : Config} {path : Path} {lines : List Text}
  {changed : ChangedLines} {line : Text} {index : Nat} {declaration : Declaration}
  {block : DocBlock} {v : Violation}

/-! ## The rules of a declaration -/

theorem rules_visibilityDiscrepancies :
    ((Documentation.visibilityDiscrepancies declaration block).map Rule.ofDiscrepancy).Sublist
      [.visibilityTag] := by
  rw [Documentation.visibilityDiscrepancies]
  split
  · exact List.nil_sublist _
  · split
    · exact List.Sublist.refl _
    · split
      · exact List.nil_sublist _
      · exact List.Sublist.refl _
    · exact List.Sublist.refl _

theorem visibilityDiscrepancies_eq_nil (h : declaration.visibility = none) :
    (Documentation.visibilityDiscrepancies declaration block).map Rule.ofDiscrepancy = [] := by
  rw [Documentation.visibilityDiscrepancies, h]
  rfl

theorem rules_returnDiscrepancies {voidReturn : Documentation.VoidReturn} :
    ((Documentation.returnDiscrepancies voidReturn declaration block).map
      Rule.ofDiscrepancy).Sublist [.returnTag] := by
  rw [Documentation.returnDiscrepancies]
  split
  · exact List.nil_sublist _
  · exact List.Sublist.refl _

theorem rules_parameterDiscrepancies :
    ∃ tags, (Documentation.parameterDiscrepancies declaration block).map Rule.ofDiscrepancy =
      List.replicate tags .paramTag := by
  refine ⟨_, List.eq_replicate_of_mem (List.forall_mem_map.mpr fun found hfound => ?_)⟩
  have hname := Documentation.isSome_parameterName? found hfound
  cases found <;> first | rfl | cases hname

theorem rules_formatDiscrepancies :
    ((Documentation.formatDiscrepancies block).map Rule.ofDiscrepancy).Sublist
      [.reactiveDocFormat] := by
  rw [Documentation.formatDiscrepancies]
  split
  · exact List.Sublist.refl _
  · split
    · exact List.Sublist.refl _
    · exact List.nil_sublist _

theorem documentationRules_discrepancies (voidReturn : Documentation.VoidReturn)
    (declaration : Declaration) (above? : Option DocBlock) :
    DocumentationRules declaration above?
      ((Documentation.discrepancies voidReturn declaration above?).map Rule.ofDiscrepancy) := by
  cases above? with
  | none => exact .undocumented
  | some block =>
    rw [Documentation.discrepancies, List.map_append]
    cases hmethod : declaration.isMethod with
    | true =>
      obtain ⟨tags, htags⟩ := @rules_parameterDiscrepancies declaration block
      rw [if_pos rfl, List.map_append, htags]
      exact .method hmethod rules_visibilityDiscrepancies visibilityDiscrepancies_eq_nil
        rules_returnDiscrepancies tags
    | false =>
      rw [if_neg Bool.false_ne_true]
      exact .reactive hmethod rules_visibilityDiscrepancies visibilityDiscrepancies_eq_nil
        rules_formatDiscrepancies

theorem rules_requirement (isLacking : Bool) (onChangedLine : Bool) (rule : Rule)
    (complaint : Text) :
    ((if isLacking then [declarationViolation path declaration onChangedLine rule complaint]
      else []).map (·.rule)).Sublist [rule] := by
  split
  · exact List.Sublist.refl _
  · exact List.nil_sublist _

theorem declaredRules_declarationViolations (onChangedLine : Bool) (above? : Option DocBlock) :
    DeclaredRules above? (some declaration)
      ((declarationViolations config path onChangedLine declaration above?).map (·.rule)) := by
  have hdocumentation := documentationRules_discrepancies config.documentation.voidReturn
    declaration above?
  have hrule : (fun v : Violation => v.rule) ∘
      discrepancyViolation path declaration onChangedLine = Rule.ofDiscrepancy := rfl
  rw [declarationViolations, List.append_assoc, List.map_append, List.map_map, hrule,
    List.map_append]
  refine .present hdocumentation ((rules_requirement _ _ _ _).append (rules_requirement _ _ _ _))
    fun hmem => ?_
  -- Of the two requirements only the first can be about the modifier.
  rcases List.mem_append.mp hmem with hmem | hmem
  · split at hmem
    · next hlacks =>
      rw [lacksAccessModifier, Bool.and_eq_true] at hlacks
      simpa using hlacks.2
    · cases hmem
  · cases List.mem_singleton.mp ((rules_requirement _ _ _ _).subset hmem)

theorem declaredRules_declarationFindings (onChangedLine : Bool) :
    DeclaredRules (DocBlock.above? lines index) (recognize line (index + 1))
      ((declarationFindings recognize config path lines onChangedLine line index).map
        (·.rule)) := by
  rw [declarationFindings]
  cases recognize line (index + 1) with
  | none => exact .absent
  | some declaration => exact declaredRules_declarationViolations onChangedLine _

/-! ## The rules of a line -/

theorem rule_injective {a b : Detector} (h : a.rule = b.rule) : a = b := by
  cases a <;> cases b <;> first | rfl | cases h

theorem detectedRules_detectorViolations :
    DetectedRules config changed (index + 1) line
      ((if changed.contains (index + 1) then detectorViolations config path line (index + 1)
        else []).map (·.rule)) := by
  cases hchanged : changed.contains (index + 1) with
  | false => exact ⟨List.nil_sublist _, by simp [hchanged]⟩
  | true =>
    have hrules : (detectorViolations config path line (index + 1)).map (·.rule) =
        ((Detector.enabled config.detectors).filter (·.fires line)).map Detector.rule := by
      rw [detectorViolations, List.map_map]
      rfl
    have hsub : ((Detector.enabled config.detectors).filter (·.fires line)).Sublist Detector.all :=
      List.filter_sublist.trans List.filter_sublist
    rw [if_pos rfl, hrules]
    refine ⟨hsub.map Detector.rule, fun detector => ?_⟩
    have hall : detector ∈ Detector.all := by cases detector <;> decide
    rw [List.mem_map_of_injective fun _ _ => rule_injective, List.mem_filter, Detector.enabled,
      List.mem_filter]
    simp [hall, hchanged]

theorem rules_lineViolations : ∃ detected declared,
    (lineViolations recognize config path lines changed line index).map (·.rule) =
        detected ++ declared ∧
      DetectedRules config changed (index + 1) line detected ∧
      DeclaredRules (DocBlock.above? lines index)
        (if changed.isNear (index + 1) config.documentation.nearWindow then
          recognize line (index + 1) else none) declared := by
  rw [lineViolations_eq, List.map_append]
  refine ⟨_, _, rfl, detectedRules_detectorViolations, ?_⟩
  split
  · exact declaredRules_declarationFindings _
  · exact .absent

/-! ## Modifiers and severities -/

theorem DocumentationRules.visibility_ne_none {above? : Option DocBlock} {rules : List Rule}
    (h : DocumentationRules declaration above? rules) (hmem : .visibilityTag ∈ rules) :
    declaration.visibility ≠ none := by
  intro hnone
  cases h with
  | undocumented => cases List.mem_singleton.mp hmem
  | method _ _ hwritten hresult tags =>
    rw [hwritten hnone, List.nil_append, List.mem_append] at hmem
    rcases hmem with hmem | hmem
    · cases List.mem_singleton.mp (hresult.subset hmem)
    · cases List.eq_of_mem_replicate hmem
  | reactive _ _ hwritten hformat =>
    rw [hwritten hnone, List.nil_append] at hmem
    cases List.mem_singleton.mp (hformat.subset hmem)

theorem DocumentationRules.missingAccessModifier_notMem {above? : Option DocBlock}
    {rules : List Rule} (h : DocumentationRules declaration above? rules) :
    .missingAccessModifier ∉ rules := by
  intro hmem
  cases h with
  | undocumented => cases List.mem_singleton.mp hmem
  | method _ hmodifier _ hresult tags =>
    rw [List.mem_append, List.mem_append] at hmem
    rcases hmem with hmem | hmem | hmem
    · cases List.mem_singleton.mp (hmodifier.subset hmem)
    · cases List.mem_singleton.mp (hresult.subset hmem)
    · cases List.eq_of_mem_replicate hmem
  | reactive _ hmodifier _ hformat =>
    rcases List.mem_append.mp hmem with hmem | hmem
    · cases List.mem_singleton.mp (hmodifier.subset hmem)
    · cases List.mem_singleton.mp (hformat.subset hmem)

/-- A modifier that is missing has no tag that could be wrong. -/
theorem DeclaredRules.exclusive {above? : Option DocBlock} {declaration? : Option Declaration}
    {rules : List Rule} (h : DeclaredRules above? declaration? rules)
    (htag : .visibilityTag ∈ rules) : .missingAccessModifier ∉ rules := by
  intro hmissing
  cases h with
  | absent => cases htag
  | present hdocumentation hown hunwritten =>
    have hnone := hunwritten
      ((List.mem_append.mp hmissing).resolve_left hdocumentation.missingAccessModifier_notMem)
    rcases List.mem_append.mp htag with htag | htag
    · exact hdocumentation.visibility_ne_none htag hnone
    · exact absurd (hown.subset htag) (by decide)

theorem severity_detectorViolations (hv : v ∈ detectorViolations config path line (index + 1)) :
    v.severity = .error ↔ v.rule = .breakpoint := by
  obtain ⟨detector, -, rfl⟩ := List.mem_map.mp hv
  cases detector <;> simp [Detector.severity, Detector.rule]

theorem isCritical_iff {found : Discrepancy} :
    found.isCritical = true ↔ Discrepancy.IsContradiction found := by
  constructor
  · intro h
    cases found with
    | visibilityTagMismatch expected found => exact .modifier expected found
    | extraParamTag name => exact .extraTag name
    | _ => cases h
  · rintro (⟨_, _⟩ | _) <;> rfl

/-! ## From lines to the file -/

theorem exists_line_of_mem (hrec : recognize.KeepsLineNumber) {content : Text}
    (hv : v ∈ violationsWith recognize config path content changed) :
    ∃ index line, (Text.lines content)[index]? = some line ∧ v.line = index + 1 ∧
      v ∈ lineViolations recognize config path (Text.lines content) changed line index := by
  rw [violationsWith_eq_flatMap, List.mem_flatMap] at hv
  obtain ⟨⟨line, index⟩, hentry, hv⟩ := hv
  exact ⟨index, line, List.mem_zipIdx_iff_getElem?.mp hentry,
    line_of_mem_lineViolations hrec hv, hv⟩

theorem pairwise_zipIdx (lines : List Text) : lines.zipIdx.Pairwise (·.2 < ·.2) := by
  rw [List.pairwise_iff_getElem]
  intro i j hi hj hij
  rw [List.getElem_zipIdx, List.getElem_zipIdx]
  simpa using hij

theorem pairwise_violationsWith (hrec : recognize.KeepsLineNumber) (content : Text) :
    (violationsWith recognize config path content changed).Pairwise (·.line ≤ ·.line) := by
  rw [violationsWith_eq_flatMap, List.pairwise_flatMap]
  constructor
  · intro entry _
    refine List.pairwise_of_forall_mem_list fun v hv w hw => ?_
    rw [line_of_mem_lineViolations hrec hv, line_of_mem_lineViolations hrec hw]
  · refine (pairwise_zipIdx _).imp fun {a b} hlt v hv w hw => ?_
    rw [line_of_mem_lineViolations hrec hv, line_of_mem_lineViolations hrec hw]
    omega

theorem flatMap_eq_of_unique {α β : Type} {f : α → List β} {as : List α} {a : α} (h : as.Nodup)
    (ha : a ∈ as) (hother : ∀ b ∈ as, b ≠ a → f b = []) : as.flatMap f = f a := by
  obtain ⟨before, after, rfl⟩ := List.append_of_mem ha
  rw [List.nodup_middle, List.nodup_cons, List.mem_append, not_or] at h
  have hbefore : before.flatMap f = [] := List.flatMap_eq_nil_iff.mpr fun b hb =>
    hother b (List.mem_append_left _ hb) (ne_of_mem_of_not_mem hb h.1.1)
  have hafter : after.flatMap f = [] := List.flatMap_eq_nil_iff.mpr fun b hb =>
    hother b (List.mem_append_right _ (List.mem_cons_of_mem _ hb)) (ne_of_mem_of_not_mem hb h.1.2)
  rw [List.flatMap_append, List.flatMap_cons, hbefore, hafter, List.nil_append, List.append_nil]

/-- The findings on a line are those that its line alone contributes. -/
theorem filter_violationsWith (hrec : recognize.KeepsLineNumber) {content : Text}
    (hline : (Text.lines content)[index]? = some line) :
    (violationsWith recognize config path content changed).filter (·.line == index + 1) =
      lineViolations recognize config path (Text.lines content) changed line index := by
  have hentry : (line, index) ∈ (Text.lines content).zipIdx :=
    List.mem_zipIdx_iff_getElem?.mpr hline
  have hnodup : (Text.lines content).zipIdx.Nodup :=
    List.Nodup.of_map _ (List.nodup_zipIdx_map_snd _)
  rw [violationsWith_eq_flatMap, List.filter_flatMap,
    flatMap_eq_of_unique hnodup hentry fun entry hmem hne => ?_]
  · refine List.filter_eq_self.mpr fun v hv => ?_
    rw [line_of_mem_lineViolations hrec hv, beq_self_eq_true]
  · refine List.filter_eq_nil_iff.mpr fun v hv hsame => hne ?_
    rw [line_of_mem_lineViolations hrec hv, beq_iff_eq, Nat.add_right_cancel_iff] at hsame
    -- Another line with the same index would be the same line.
    have hget := List.mem_zipIdx_iff_getElem?.mp hmem
    rw [hsame, hline] at hget
    exact Prod.ext (Option.some.inj hget).symm hsame

theorem severity_eq_error_iff
    (hv : v ∈ lineViolations recognize config path lines changed line index) :
    v.severity = .error ↔ v.rule = .breakpoint ∨
      ∃ declaration found, Discrepancy.IsContradiction found ∧
        v = discrepancyViolation path declaration v.onChangedLine found := by
  have herror : (∃ declaration found, Discrepancy.IsContradiction found ∧
      v = discrepancyViolation path declaration v.onChangedLine found) → v.severity = .error := by
    rintro ⟨declaration, found, hfound, hv⟩
    rw [hv, discrepancyViolation, isCritical_iff.mpr hfound]
    rfl
  rcases mem_lineViolations hv with hv | ⟨declaration, -, hv⟩
  · have hbreakpoint := severity_detectorViolations hv
    exact ⟨fun h => .inl (hbreakpoint.mp h), fun h => h.elim hbreakpoint.mpr herror⟩
  · have hrule : v.rule ≠ .breakpoint := by
      intro h
      have hother := (declarationViolations_spec hv).2.1
      rw [h] at hother
      cases hother
    refine ⟨fun h => .inr ?_, fun h => herror (h.resolve_left hrule)⟩
    rcases mem_declarationViolations hv with ⟨found, rfl⟩ | ⟨_, _, _, rfl⟩
    · refine ⟨declaration, found, isCritical_iff.mp ?_, rfl⟩
      by_contra hcritical
      rw [discrepancyViolation, if_neg hcritical] at h
      cases h
    · cases h

theorem exclusive_violationsWith (hrec : recognize.KeepsLineNumber) {content : Text}
    {w : Violation} (hv : v ∈ violationsWith recognize config path content changed)
    (hw : w ∈ violationsWith recognize config path content changed)
    (htag : v.rule = .visibilityTag) (hmissing : w.rule = .missingAccessModifier) :
    v.line ≠ w.line := by
  intro hsame
  obtain ⟨index, line, hline, hnumber, -⟩ := exists_line_of_mem hrec hv
  obtain ⟨detected, declared, hrules, hdetected, hdeclared⟩ := rules_lineViolations
  rw [← filter_violationsWith hrec hline] at hrules
  have hrule {u : Violation} (hu : u ∈ violationsWith recognize config path content changed)
      (hindex : u.line = index + 1) : u.rule ∈ detected ++ declared := by
    rw [← hrules]
    exact List.mem_map_of_mem (List.mem_filter.mpr ⟨hu, beq_iff_eq.mpr hindex⟩)
  -- No detector finds either of the two rules, so that both are the declaration's.
  have hdeclares {rule : Rule} (hmem : rule ∈ detected ++ declared)
      (hother : rule ∉ [.debugStatement, .breakpoint, .todo, .fixme]) : rule ∈ declared :=
    (List.mem_append.mp hmem).resolve_left fun h => hother (hdetected.sublist.subset h)
  exact hdeclared.exclusive (hdeclares (htag ▸ hrule hv hnumber) (by decide))
    (hdeclares (hmissing ▸ hrule hw (hsame.symm.trans hnumber)) (by decide))

/-- The findings of a scan stand in order, whatever the file, the changes and the configuration. -/
theorem violations_isOrderly (config : Config) (path : Path) (content : Text)
    (changed : ChangedLines) :
    IsOrderly Declaration.ofLine? config path (Text.lines content) changed
      (violations config path content changed) where
  sorted := pairwise_violationsWith Declaration.ofLine?_keepsLineNumber content
  bounded := by
    intro v hv
    obtain ⟨index, line, hline, hnumber, -⟩ :=
      exists_line_of_mem Declaration.ofLine?_keepsLineNumber hv
    have hlt := (List.getElem?_eq_some_iff.mp hline).1
    omega
  rules := by
    intro index line hline
    rw [violations, filter_violationsWith Declaration.ofLine?_keepsLineNumber hline]
    exact rules_lineViolations
  exclusive _ hv _ hw := exclusive_violationsWith Declaration.ofLine?_keepsLineNumber hv hw
  errors := by
    intro v hv
    obtain ⟨index, line, -, -, hv⟩ := exists_line_of_mem Declaration.ofLine?_keepsLineNumber hv
    exact severity_eq_error_iff hv

end Scan

end ChangeReview
