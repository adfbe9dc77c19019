import ChangeReview.Proofs.Declaration.MethodHead

/-!
# The recorded return type

The body of a method is taken to open at the first brace that stands behind the first character of
its return type. `Declaration.recordedType` is what is left of a type that holds such a brace, and
`TypedLine.ofLine?_recordedType` says that this is what a line records, so that a type is recorded as
it is written exactly if it holds none.
-/

namespace ChangeReview

namespace Declaration

variable {type : Text}

/-- A type up to the first brace behind its first character, without the blanks before the brace. -/
def recordedType (type : Text) : Text :=
  Text.trimEnd (type.take 1 ++ type.tail.takeWhile (· != '{'))

/-- A type is recorded whole exactly if no brace stands behind its first character. -/
theorem recordedType_eq_iff (htrimmed : IsTrimmed type) :
    recordedType type = type ↔ '{' ∉ type.tail := by
  cases type with
  | nil => exact iff_of_true rfl List.not_mem_nil
  | cons c rest =>
    rw [List.tail_cons]
    constructor
    · intro hwhole hmem
      obtain ⟨front, back, rfl, hfront⟩ := List.eq_append_cons_of_mem hmem
      obtain ⟨tail, hparts, _⟩ := Text.exists_trimEndBy isBlank (c :: front)
      have hrecorded : recordedType (c :: (front ++ '{' :: back)) = Text.trimEnd (c :: front) := by
        rw [recordedType, List.tail_cons, takeWhile_of_notMem hfront]
        rfl
      have hlength := congrArg List.length hparts
      rw [← Text.trimEnd, ← hrecorded, hwhole] at hlength
      simp only [List.length_append, List.length_cons] at hlength
      omega
    · intro hmem
      have hall : rest.takeWhile (· != '{') = rest :=
        List.takeWhile_eq_self_iff.mpr (forall_ne_of_notMem hmem)
      rw [recordedType, List.tail_cons, hall]
      exact Text.trimEndBy_of_getLast htrimmed.2

/-- Behind a parameter list a return type is recorded up to its brace. -/
theorem returnType?_recordedType (hne : type ≠ []) (htrimmed : IsTrimmed type)
    (hfeed : '\n' ∉ type) {before gap after : Text} (hbefore : IsBlankText before)
    (hgap : IsBlankText gap) (hafter : IsBlankText after) (body : Text) :
    returnType? (before ++ ':' :: (gap ++ (type ++ (after ++ '{' :: body)))) =
      some (some (recordedType type)) := by
  by_cases hbrace : '{' ∈ type.tail
  · obtain ⟨c, rest, rfl⟩ := List.exists_cons_of_ne_nil hne
    obtain ⟨front, back, hrest, hfront⟩ := List.eq_append_cons_of_mem hbrace
    rw [List.tail_cons] at hrest
    subst hrest
    obtain ⟨tail, hparts, htail, hlast⟩ := Text.exists_trimEndBy isBlank (c :: front)
    have hrecorded : recordedType (c :: (front ++ '{' :: back)) =
        Text.trimEndBy isBlank (c :: front) := by
      rw [recordedType, List.tail_cons, takeWhile_of_notMem hfront]
      rfl
    have hc : isBlank c = false := htrimmed.1 c rfl
    obtain ⟨kept, hkept⟩ : ∃ kept, Text.trimEndBy isBlank (c :: front) = c :: kept := by
      have hlead := Text.trimEndBy_append_of_getLast (show [c].getLast? = some c from rfl) hc front
      exact ⟨_, hlead⟩
    rw [hkept, List.cons_append, List.cons.injEq] at hparts
    rw [hkept] at hlast
    have hmem : ∀ d ∈ kept, d ∈ front := fun d hd => hparts.2 ▸ List.mem_append_left tail hd
    -- The type that is read ends before the blanks, and the brace behind them opens the body.
    have hread := returnType?_append_of_tail (List.cons_ne_nil c kept)
      ⟨fun d hd => htrimmed.1 d hd, hlast⟩ (fun hd => hfront (hmem _ hd))
      (fun hd => hfeed ?_) hbefore hgap htail (back ++ (after ++ '{' :: body))
    · rw [hrecorded, hkept, ← hread, hparts.2]
      simp
    · rcases List.mem_cons.mp hd with hd | hd
      · exact hd ▸ List.mem_cons_self
      · exact List.mem_cons_of_mem _ (List.mem_append_left _ (hmem _ hd))
  · rw [(recordedType_eq_iff htrimmed).mpr hbrace]
    exact returnType?_append_of_tail hne htrimmed hbrace hfeed hbefore hgap hafter body

end Declaration

/-- The parts of a line that declares a method with a return type of any form. -/
structure TypedLine where
  /-- The text before the parameter list. -/
  headText : Text
  head : MethodHead
  parameterText : Text
  /-- The blanks before and after the colon of the return type. -/
  colonGap : Text
  typeGap : Text
  returnType : Text
  braceGap : Text
  /-- Everything behind the opening brace. -/
  body : Text
  headText_plain : '(' ∉ headText
  headText_read : MethodHead.ofText? (Text.trimStart headText) = some head
  parameterText_balanced : Nesting.Balanced parameterText
  colonGap_blank : IsBlankText colonGap
  typeGap_blank : IsBlankText typeGap
  returnType_ne_nil : returnType ≠ []
  returnType_trimmed : IsTrimmed returnType
  returnType_lineFeed : '\n' ∉ returnType
  braceGap_blank : IsBlankText braceGap

namespace TypedLine

/-- The text from the colon on. -/
def resultText (line : TypedLine) : Text :=
  line.colonGap ++ ':' :: (line.typeGap ++ (line.returnType ++ line.braceGap))

/-- The whole line. -/
def text (line : TypedLine) : Text :=
  line.headText ++ '(' :: (line.parameterText ++ ')' :: (line.resultText ++ '{' :: line.body))

variable (line : TypedLine)

/-- The line declares a method with the recorded part of its return type, which is the written type
exactly if no brace stands behind the first character of that type. -/
theorem ofLine?_recordedType (lineNumber : Nat) :
    Declaration.ofLine? line.text lineNumber =
        some (line.head.declaration (Parameter.listOfText line.parameterText)
          (some (Declaration.recordedType line.returnType)) lineNumber) ∧
      (Declaration.recordedType line.returnType = line.returnType ↔
        '{' ∉ line.returnType.tail) := by
  refine ⟨?_, Declaration.recordedType_eq_iff line.returnType_trimmed⟩
  have htrim := trim_append_parenthesis line.headText
    (line.parameterText ++ ')' :: line.resultText) (show isBlank '{' = false from rfl) line.body
  rw [List.append_assoc, List.cons_append] at htrim
  have hplain : '(' ∉ Text.trimStart line.headText := fun hmem =>
    line.headText_plain ((List.dropWhile_sublist _).mem hmem)
  have hclose := Nesting.splitAtClose_enclosed (show ('(', ')') ∈ _ from List.mem_cons_self)
    line.parameterText_balanced (line.resultText ++ '{' :: Text.trimEnd line.body)
  have hreturn := Declaration.returnType?_recordedType line.returnType_ne_nil
    line.returnType_trimmed line.returnType_lineFeed line.colonGap_blank line.typeGap_blank
    line.braceGap_blank (Text.trimEnd line.body)
  have hresult : line.resultText ++ '{' :: Text.trimEnd line.body = line.colonGap ++
      ':' :: (line.typeGap ++ (line.returnType ++ (line.braceGap ++
        '{' :: Text.trimEnd line.body))) := by
    simp [resultText]
  apply Declaration.ofLine?_of_method?
  rw [text, htrim, List.append_assoc, List.cons_append,
    Declaration.method?_append_parenthesis hplain, line.headText_read, hclose, hresult]
  simp only [Option.bind_some, hreturn, Option.map_some, List.drop_succ_cons, List.drop_zero]

/-- A union whose first member is an object type. -/
def unionLine : TypedLine where
  headText := "  private größe "
  head := ⟨some .priv, none, "größe"⟩
  parameterText := "at: Map<K, (k: K) => V>"
  colonGap := []
  typeGap := " "
  returnType := "\x7b x: number \x7d | undefined"
  braceGap := " "
  body := " return \x7b x: 1 \x7d; \x7d"
  headText_plain := by decide
  headText_read := by decide +kernel
  parameterText_balanced := by decide
  colonGap_blank := isBlankText_nil
  typeGap_blank := isBlankText_space
  returnType_ne_nil := by decide
  returnType_trimmed := by decide
  returnType_lineFeed := by decide
  braceGap_blank := isBlankText_space

theorem ofLine?_recordedType_unionLine :
    Declaration.ofLine? unionLine.text 3 =
      some
        { kind := .method
          visibility := some .priv
          name := "größe"
          parameters := Parameter.listOfText "at: Map<K, (k: K) => V>"
          returnType := some "\x7b x: number \x7d | undefined".toList
          accessor := none
          lineNumber := 3 } := by
  have hrecorded : Declaration.recordedType unionLine.returnType = unionLine.returnType :=
    (unionLine.ofLine?_recordedType 3).2.mpr (by decide)
  rw [(unionLine.ofLine?_recordedType 3).1, hrecorded]
  rfl

/-- An object type as a type argument is cut off, and so is one in another object type. -/
theorem ofLine?_nestedObjectTypes :
    Nesting.Balanced "Promise<\x7b id: number \x7d>" ∧
      IsTrimmed "Promise<\x7b id: number \x7d>" ∧
      Declaration.ofLine? "load(id: number): Promise<\x7b id: number \x7d> \x7b" 1 =
        some
          { kind := .method
            visibility := none
            name := "load"
            parameters := [⟨"id", "number"⟩]
            returnType := some "Promise<".toList
            accessor := none
            lineNumber := 1 } ∧
      (Declaration.ofLine? "load(): \x7b a: \x7b b: T \x7d \x7d \x7b" 1).map
        Declaration.returnType = some (some "\x7b a:".toList) := by
  decide +kernel

end TypedLine

end ChangeReview
