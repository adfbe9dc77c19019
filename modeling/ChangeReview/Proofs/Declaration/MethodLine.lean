import ChangeReview.Proofs.Declaration.Parameters
import ChangeReview.Proofs.Declaration.Recognition

/-!
# Method lines

`MethodSignature` describes a method by its access modifier, other modifiers, name, typed parameters
and return type. `MethodSignature.ofLine?_text` says that the line written from these parts, at any
indentation, is recognised as the declaration that they describe.
-/

namespace ChangeReview

/-- A method as a line can declare it. -/
structure MethodSignature where
  /-- The access modifier. -/
  visibility : Visibility
  /-- The words after the access modifier. -/
  modifiers : List Text
  /-- Which accessor the method is, if any. -/
  accessor : Option Accessor
  /-- The name. -/
  name : Text
  /-- The parameters with their types. -/
  parameters : List Parameter
  /-- The type of the result. -/
  returnType : Text
  modifiers_allowed : ∀ word ∈ modifiers, word ∈ Declaration.methodModifiers
  name_ascii : IsAsciiName name
  name_allowed : name ∉ Declaration.nonMethodNames
  parameters_plain : ∀ parameter ∈ parameters, parameter.IsPlain
  returnType_plain : IsPlainType returnType
  returnType_brace : '{' ∉ returnType

namespace MethodSignature

/-- The words before the name. -/
def words (method : MethodSignature) : List Text :=
  method.visibility.keyword ::
    (method.modifiers ++ method.accessor.toList.map Accessor.keyword)

/-- The parameters with commas between them. -/
def parameterList (method : MethodSignature) : Text :=
  Text.joinWith [',', ' '] (method.parameters.map Parameter.written)

/-- The text from the name on. -/
def nameText (method : MethodSignature) : Text :=
  method.name ++ '(' :: (method.parameterList ++
    ')' :: ([':', ' '] ++ method.returnType ++ [' ', '{']))

/-- The line that declares the method, without indentation. -/
def text (method : MethodSignature) : Text :=
  method.words.flatMap (· ++ [' ']) ++ method.nameText

/-- What the line declares. -/
def declaration (method : MethodSignature) (lineNumber : Nat) : Declaration where
  kind := .method
  visibility := some method.visibility
  name := method.name
  parameters := method.parameters.map Parameter.trimType
  returnType := some (Text.trim method.returnType)
  accessor := method.accessor
  lineNumber := lineNumber

variable (method : MethodSignature)

/-- The written return type is read back without the blanks at its ends. -/
theorem returnType?_text :
    Declaration.returnType? ([':', ' '] ++ method.returnType ++ [' ', '{']) =
      some (some (Text.trim method.returnType)) := by
  have hplain := method.returnType_plain
  obtain ⟨lead, tail, hparts, hlead, htail, htrimmed⟩ := Text.exists_trim method.returnType
  have hmem : ∀ c ∈ Text.trim method.returnType, c ∈ method.returnType := fun c hc => by
    rw [hparts]
    exact List.mem_append_left _ (List.mem_append_right _ hc)
  have htype : Declaration.IsReturnType (Text.trim method.returnType) :=
    { ne_nil := hplain.trim_ne_nil
      isTrimmed := htrimmed
      no_brace := fun hc => method.returnType_brace (hmem _ hc)
      no_lineFeed := fun hc => hplain.no_lineFeed (hmem _ hc) }
  have hbefore : IsBlankText (' ' :: lead) := List.forall_mem_cons.mpr ⟨rfl, hlead⟩
  have hafter : IsBlankText (tail ++ [' ']) := List.forall_mem_append.mpr ⟨htail, by decide⟩
  rw [← Declaration.returnType?_append htype isBlankText_nil hbefore hafter []]
  conv_lhs => rw [hparts]
  simp

theorem balanced_parameterList : Nesting.Balanced method.parameterList :=
  Nesting.balanced_joinWith <| List.forall_mem_map.mpr fun parameter hparameter =>
    (method.parameters_plain parameter hparameter).isPart.balanced

theorem method?_text (lineNumber : Nat) :
    Declaration.method? method.text lineNumber = some (method.declaration lineNumber) := by
  have hwords : (method.words.map SpacedWord.single).map SpacedWord.word =
      Declaration.methodWords (some method.visibility) method.modifiers method.accessor := by
    rw [List.map_map]
    exact List.map_id _
  have hline : SpacedWord.line (method.words.map SpacedWord.single) =
      method.words.flatMap (· ++ [' ']) := List.flatMap_map _ _ _
  have hmethod := Declaration.method?_append hwords method.modifiers_allowed method.name_ascii
    method.name_allowed (show ∀ inner ∈ (none : Option Text), _ by simp)
    method.balanced_parameterList method.returnType?_text lineNumber
  have hlist : Parameter.listOfText method.parameterList =
      method.parameters.map Parameter.trimType :=
    Parameter.listOfText_written method.parameters_plain
  rw [hline, hlist] at hmethod
  exact hmethod

/-- A line with the method's text is recognised as the method, at any indentation. -/
theorem ofLine?_text {indent : Text} (hindent : IsBlankText indent) (lineNumber : Nat) :
    Declaration.ofLine? (indent ++ method.text) lineNumber =
      some (method.declaration lineNumber) := by
  have htrimmed : IsTrimmed method.text := by
    have hkeyword := Declaration.isAsciiName_of_keyword method.visibility
    have hbrace : IsTrimmed ['{'] := isTrimmed_singleton rfl
    obtain ⟨middle, hmiddle⟩ : ∃ middle, method.text =
        method.visibility.keyword ++ middle ++ ['{'] :=
      ⟨' ' :: ((method.modifiers ++ method.accessor.toList.map Accessor.keyword).flatMap
        (· ++ [' ']) ++ (method.name ++ '(' :: (method.parameterList ++
          ')' :: ([':', ' '] ++ method.returnType ++ [' '])))), by
        simp [text, words, nameText]⟩
    rw [hmiddle]
    exact Text.isTrimmed_append hkeyword.isTrimmed hbrace hkeyword.ne_nil (by simp) _
  rw [Declaration.ofLine?, Text.trim_append_left hindent, Text.trim_of_isTrimmed htrimmed,
    method?_text]
  rfl

end MethodSignature

end ChangeReview
