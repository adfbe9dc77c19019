import ChangeReview.Proofs.Declaration.NameFront

/-!
# Written parameters

`IsPlainType` describes the types whose brackets pair up and that hold no quote, tag, comment end or
default value. `Parameter.listOfText_written` says that a list of names with such types is read
back name by name, however deep the types nest.
-/

namespace ChangeReview

/-- A type as it is written both in a signature and in documentation. -/
structure IsPlainType (type : Text) : Prop extends Nesting.IsPart type where
  /-- Something is written. -/
  not_blank : ¬ IsBlankText type
  /-- Outside brackets, `=` only draws arrows. -/
  no_assignment : ∀ entry ∈ Nesting.topLevel type, entry.1 = '=' → headIs '>' entry.2 = true
  /-- No tag begins in it. -/
  no_tag : '@' ∉ type
  /-- It stands on one line. -/
  no_lineFeed : '\n' ∉ type
  /-- No comment ends in it. -/
  no_commentEnd : ¬ ['*', '/'] <:+: type

instance : DecidablePred IsPlainType := fun type =>
  decidable_of_iff (Nesting.IsPart type ∧ ¬ IsBlankText type ∧
      (∀ entry ∈ Nesting.topLevel type, entry.1 = '=' → headIs '>' entry.2 = true) ∧
      '@' ∉ type ∧ '\n' ∉ type ∧ ¬ ['*', '/'] <:+: type)
    ⟨fun ⟨hpart, hblank, hassign, htag, hfeed, hend⟩ =>
      ⟨hpart, hblank, hassign, htag, hfeed, hend⟩,
      fun h => ⟨h.toIsPart, h.2, h.3, h.4, h.5, h.6⟩⟩

example : IsPlainType "(key: string, at: Map<string, number>) => void" := by decide

theorem IsPlainType.trim_ne_nil {type : Text} (h : IsPlainType type) : Text.trim type ≠ [] :=
  fun hnil => h.not_blank (Text.trim_eq_nil_iff.mp hnil)

/-- No default value is found after inert text and the type, nor when the type loses blanks at its
end. -/
theorem IsPlainType.splitAssignment_eq_none {type kept tail : Text} (h : IsPlainType type)
    (htype : type = kept ++ tail) (htail : IsBlankText tail) {lead : Text}
    (hlead : ∀ c ∈ lead, Nesting.IsInert c) : Nesting.splitAssignment (lead ++ kept) = none := by
  have hwhole : Nesting.splitAssignment (lead ++ type) = none := by
    rw [Nesting.splitAssignment, Nesting.assignmentFrom_append_of_isInert hlead,
      Nesting.assignmentFrom_eq_none, Option.map_none]
    rw [h.balanced.topLevelFrom]
    exact h.no_assignment
  rw [htype, ← List.append_assoc] at hwhole
  refine Nesting.assignmentFrom_of_append (fun c hc => ?_) hwhole
  exact isInert_of_isBlank (htail c (List.mem_of_head? hc))

namespace Parameter

/-- The parameter as a signature shows it. -/
def written (parameter : Parameter) : Text :=
  parameter.name ++ [':', ' '] ++ parameter.declaredType

/-- The parameter without blanks around its type. -/
def trimType (parameter : Parameter) : Parameter :=
  { parameter with declaredType := Text.trim parameter.declaredType }

/-- A parameter with a name and type that a signature can show. -/
structure IsPlain (parameter : Parameter) : Prop where
  /-- The name is an identifier. -/
  name : IsAsciiName parameter.name
  /-- The type is plain. -/
  declaredType : IsPlainType parameter.declaredType

instance : DecidablePred IsPlain := fun parameter =>
  decidable_of_iff (IsAsciiName parameter.name ∧ IsPlainType parameter.declaredType)
    ⟨fun ⟨hname, htype⟩ => ⟨hname, htype⟩, fun h => ⟨h.1, h.2⟩⟩

variable {parameter : Parameter}

theorem IsPlain.isPart (h : parameter.IsPlain) : Nesting.IsPart parameter.written := by
  have hlead : ∀ c ∈ parameter.name ++ [':', ' '], Nesting.IsInert c :=
    List.forall_mem_append.mpr
      ⟨fun c hc => isInert_of_isIdentifierPart (h.name.isIdentifier.parts c hc), by decide⟩
  exact (Nesting.isPart_of_isInert hlead).append h.declaredType.toIsPart

/-- What is written is the name, a colon and the type, without the blanks at its end. -/
theorem IsPlain.exists_trim_written (h : parameter.IsPlain) :
    ∃ gap, IsBlankText gap ∧
      Text.trim parameter.written =
        parameter.name ++ ':' :: (gap ++ Text.trim parameter.declaredType) ∧
      typeOfText (gap ++ Text.trim parameter.declaredType) = Text.trim parameter.declaredType := by
  obtain ⟨gap, tail, hparts, hgap, htail, htrimmed⟩ := Text.exists_trim parameter.declaredType
  have hblank : IsBlankText (' ' :: gap) := List.forall_mem_cons.mpr ⟨rfl, hgap⟩
  refine ⟨' ' :: gap, hblank, ?_, ?_⟩
  · have hcore : IsTrimmed (parameter.name ++ ([':', ' '] ++ gap) ++
        Text.trim parameter.declaredType) :=
      Text.isTrimmed_append h.name.isTrimmed htrimmed h.name.ne_nil h.declaredType.trim_ne_nil _
    have hsplit : parameter.written = [] ++ (parameter.name ++ ([':', ' '] ++ gap) ++
        Text.trim parameter.declaredType) ++ tail := by
      conv_lhs => rw [written, hparts]
      simp only [List.append_assoc, List.nil_append]
    rw [hsplit, Text.trim_append isBlankText_nil htail, Text.trim_of_isTrimmed hcore]
    simp only [List.append_assoc, List.cons_append, List.nil_append]
  · have hnone : Nesting.splitAssignment (' ' :: gap ++ Text.trim parameter.declaredType) = none :=
      h.declaredType.splitAssignment_eq_none hparts htail
        (show ∀ c ∈ [' '], Nesting.IsInert c by decide)
    rw [typeOfText, hnone, Option.map_none, Option.getD_none, Text.trim_append_left hblank,
      Text.trim_of_isTrimmed htrimmed]

/-- The name and type between two commas are read back. -/
theorem IsPlain.ofPiece_written (h : parameter.IsPlain) :
    ofPiece (Text.trim parameter.written) = parameter.trimType := by
  obtain ⟨gap, _, htext, htype⟩ := h.exists_trim_written
  have hfront : IsNameFront parameter.name parameter.name := by
    simpa [markedName] using h.name.isIdentifier.isNameFront false false
  rw [htext, ofPiece, hfront.startsPattern, if_neg Bool.false_ne_true,
    ofNamed_colon hfront.inert hfront.no_colon, hfront.nameOfText, htype]
  simp [trimType, ofParts, h.declaredType.trim_ne_nil]

/-- A parameter list is read back, whatever its types nest. -/
theorem listOfText_written {parameters : List Parameter} (h : ∀ p ∈ parameters, p.IsPlain) :
    listOfText (Text.joinWith [',', ' '] (parameters.map written)) = parameters.map trimType := by
  have hpieces : ∀ text ∈ parameters.map written,
      Nesting.IsPart text ∧ Text.trim text ≠ [] := by
    refine List.forall_mem_map.mpr fun p hp => ⟨(h p hp).isPart, ?_⟩
    obtain ⟨gap, _, htext, _⟩ := (h p hp).exists_trim_written
    rw [htext]
    simp [(h p hp).name.ne_nil]
  have hlist := listOfText_joinWith hpieces false
  rw [if_neg Bool.false_ne_true, List.append_nil, List.map_map] at hlist
  rw [hlist]
  exact List.map_congr_left fun p hp => (h p hp).ofPiece_written

end Parameter

end ChangeReview
