import ChangeReview.Proofs.Declaration.Recognition

/-!
# Declared lines

`MethodLine` and `ReactiveLine` hold the parts of a line that declares a member: the words before
the name, the name, what stands between the name and the opening bracket of the body or call, and
whatever follows that bracket. `DeclaredLine.ofLine?_eq` says that every such line is recognised as
the member that its parts describe.
-/

namespace ChangeReview

/-! ## Methods -/

/-- The parts of a line that declares a method. -/
structure MethodLine where
  indent : Text
  visibility : Option Visibility
  modifiers : List Text
  accessor : Option Accessor
  /-- The words before the name, each with the blanks behind it. -/
  words : List SpacedWord
  name : Text
  /-- The text between angle brackets. -/
  generics : Option Text
  parameterText : Text
  returnType : Option Text
  /-- The blanks before and after the colon of the return type. -/
  colonGap : Text
  typeGap : Text
  braceGap : Text
  /-- Everything behind the opening brace. -/
  body : Text
  indent_blank : IsBlankText indent
  modifiers_allowed : ∀ word ∈ modifiers, word ∈ Declaration.methodModifiers
  words_eq : words.map SpacedWord.word = Declaration.methodWords visibility modifiers accessor
  name_ascii : IsAsciiName name
  name_allowed : name ∉ Declaration.nonMethodNames
  generics_plain : ∀ inner ∈ generics, '(' ∉ inner ∧ ')' ∉ inner
  parameterText_balanced : Nesting.Balanced parameterText
  returnType_plain : ∀ type ∈ returnType, Declaration.IsReturnType type
  colonGap_blank : IsBlankText colonGap
  typeGap_blank : IsBlankText typeGap
  braceGap_blank : IsBlankText braceGap

namespace MethodLine

/-- The colon and return type, if one is written. -/
def resultText (line : MethodLine) : Text :=
  (line.returnType.map fun type => line.colonGap ++ ':' :: (line.typeGap ++ type)).getD []

/-- The text from the first word to the opening brace. -/
def headText (line : MethodLine) : Text :=
  SpacedWord.line line.words ++ (line.name ++ (Declaration.genericsText line.generics ++
    '(' :: (line.parameterText ++ ')' :: (line.resultText ++ line.braceGap))))

/-- The whole line. -/
def text (line : MethodLine) : Text := line.indent ++ (line.headText ++ '{' :: line.body)

/-- The method that the parts describe. -/
def declaration (line : MethodLine) (lineNumber : Nat) : Declaration where
  kind := .method
  visibility := line.visibility
  name := line.name
  parameters := Parameter.listOfText line.parameterText
  returnType := line.returnType
  accessor := line.accessor
  lineNumber := lineNumber

variable (line : MethodLine)

theorem returnType?_resultText (body : Text) :
    Declaration.returnType? (line.resultText ++ (line.braceGap ++ '{' :: body)) =
      some line.returnType := by
  cases htype : line.returnType with
  | none =>
    rw [resultText, htype]
    exact Declaration.returnType?_absent line.braceGap_blank body
  | some type =>
    rw [← Declaration.returnType?_append (line.returnType_plain type htype) line.colonGap_blank
      line.typeGap_blank line.braceGap_blank body, resultText, htype]
    simp

theorem method?_text (body : Text) (lineNumber : Nat) :
    Declaration.method? (line.headText ++ '{' :: body) lineNumber =
      some (line.declaration lineNumber) := by
  have hmethod := Declaration.method?_append line.words_eq line.modifiers_allowed line.name_ascii
    line.name_allowed line.generics_plain line.parameterText_balanced
    (line.returnType?_resultText body) lineNumber
  simp only [headText, List.append_assoc, List.cons_append]
  exact hmethod

theorem ofLine?_text (lineNumber : Nat) :
    Declaration.ofLine? line.text lineNumber = some (line.declaration lineNumber) := by
  have hstarts : startsIdentifier line.headText = true :=
    startsIdentifier_line (forall_isAsciiName_of_map line.words_eq
      (Declaration.isAsciiName_of_mem_methodWords line.modifiers_allowed line.accessor))
      (line.name_ascii.starts_append _)
  rw [Declaration.ofLine?, text, trim_indented line.indent_blank hstarts rfl, line.method?_text]
  rfl

end MethodLine

/-! ## Reactive properties -/

/-- The parts of a line that declares a reactive property. -/
structure ReactiveLine where
  indent : Text
  visibility : Option Visibility
  modifiers : List Text
  readonly : Bool
  /-- The words before the name, each with the blanks behind it. -/
  words : List SpacedWord
  name : Text
  mark : Option Char
  /-- The blanks before the colon of the type, or before the equals sign without one. -/
  gap : Text
  /-- The text between the colon and the equals sign. -/
  type : Option Text
  valueGap : Text
  factory : Text
  kind : DeclarationKind
  opener : Char
  /-- Everything behind the opening bracket of the call. -/
  rest : Text
  indent_blank : IsBlankText indent
  modifiers_allowed : ∀ word ∈ modifiers, word ∈ Declaration.reactiveModifiers
  words_eq : words.map SpacedWord.word = Declaration.reactiveWords visibility modifiers readonly
  name_ascii : IsAsciiName name
  mark_allowed : ∀ c ∈ mark, c = '?' ∨ c = '!'
  gap_blank : IsBlankText gap
  type_plain : ∀ text ∈ type, text ≠ [] ∧ '=' ∉ text
  valueGap_blank : IsBlankText valueGap
  factory_mem : (factory, kind) ∈ Declaration.factories
  opener_allowed : opener = '(' ∨ opener = '<'

namespace ReactiveLine

/-- The text from the first word to the name of the factory. -/
def headText (line : ReactiveLine) : Text :=
  SpacedWord.line line.words ++ (line.name ++ (line.mark.toList ++ (line.gap ++
    (Declaration.annotationText line.type ++ '=' :: (line.valueGap ++ line.factory)))))

/-- The whole line. -/
def text (line : ReactiveLine) : Text := line.indent ++ (line.headText ++ line.opener :: line.rest)

/-- The member that the parts describe. What the factory is called with makes no parameters. -/
def declaration (line : ReactiveLine) (lineNumber : Nat) : Declaration where
  kind := line.kind
  visibility := line.visibility
  name := line.name
  parameters := []
  returnType := none
  accessor := none
  lineNumber := lineNumber

variable (line : ReactiveLine)

theorem ofLine?_text (lineNumber : Nat) :
    Declaration.ofLine? line.text lineNumber = some (line.declaration lineNumber) := by
  have hstarts : startsIdentifier line.headText = true :=
    startsIdentifier_line (forall_isAsciiName_of_map line.words_eq
      (Declaration.isAsciiName_of_mem_reactiveWords line.modifiers_allowed line.readonly))
      (line.name_ascii.starts_append _)
  have hopener : isBlank line.opener = false := by
    rcases line.opener_allowed with h | h <;> rw [h] <;> rfl
  have hread := Declaration.reactive?_append line.words_eq line.modifiers_allowed line.name_ascii
    line.mark_allowed line.gap_blank line.valueGap_blank line.type_plain line.factory_mem
    line.opener_allowed (Text.trimEnd line.rest) lineNumber
  rw [Declaration.ofLine?, text, trim_indented line.indent_blank hstarts hopener]
  simp only [headText, List.append_assoc, List.cons_append]
  rw [hread.1, hread.2]
  rfl

end ReactiveLine

/-! ## Either -/

/-- A line that declares a method, or a reactive member. -/
inductive DeclaredLine where
  | method (line : MethodLine)
  | reactive (line : ReactiveLine)

namespace DeclaredLine

/-- The whole line, of either shape. -/
def text : DeclaredLine → Text
  | method line => line.text
  | reactive line => line.text

/-- The member that the line declares if it has this number. -/
def declaration : DeclaredLine → Nat → Declaration
  | method line => line.declaration
  | reactive line => line.declaration

/-- A line is recognised as the member that its parts describe. -/
theorem ofLine?_eq (line : DeclaredLine) (lineNumber : Nat) :
    Declaration.ofLine? line.text lineNumber = some (line.declaration lineNumber) := by
  cases line with
  | method line => exact line.ofLine?_text lineNumber
  | reactive line => exact line.ofLine?_text lineNumber

/-- A getter with an accessor's keyword for its name and its body on the same line. -/
def getterLine : MethodLine where
  indent := "    "
  visibility := some .priv
  modifiers := ["static"]
  accessor := some .getter
  words := [.single "private", ⟨"static", "   ", by decide, by decide⟩, .single "get"]
  name := "get"
  generics := some "K"
  parameterText := "at = (k: K) => k"
  returnType := some "Set<K>"
  colonGap := []
  typeGap := " "
  braceGap := " "
  body := " go(at); \x7d"
  indent_blank := by decide
  modifiers_allowed := by decide
  words_eq := rfl
  name_ascii := by decide
  name_allowed := by decide
  generics_plain := by decide
  parameterText_balanced := by decide
  returnType_plain := by decide
  colonGap_blank := by decide
  typeGap_blank := by decide
  braceGap_blank := by decide

/-- An input with a mark, a type and type arguments. -/
def inputLine : ReactiveLine where
  indent := []
  visibility := none
  modifiers := ["override"]
  readonly := true
  words := [.single "override", .single "readonly"]
  name := "input"
  mark := some '!'
  gap := []
  type := some " Signal<Id> "
  valueGap := " "
  factory := "input.required"
  kind := .inputProperty
  opener := '<'
  rest := "Id>();"
  indent_blank := by decide
  modifiers_allowed := by decide
  words_eq := rfl
  name_ascii := by decide
  mark_allowed := by decide
  gap_blank := by decide
  type_plain := by decide
  valueGap_blank := by decide
  factory_mem := by decide
  opener_allowed := by decide

theorem ofLine?_eq_getterLine_inputLine :
    Declaration.ofLine?
        "    private static   get get<K>(at = (k: K) => k): Set<K> \x7b go(at); \x7d" 4 =
      some
        { kind := .method
          visibility := some .priv
          name := "get"
          parameters := Parameter.listOfText "at = (k: K) => k"
          returnType := some "Set<K>".toList
          accessor := some .getter
          lineNumber := 4 } ∧
    Declaration.ofLine? "override readonly input!: Signal<Id> = input.required<Id>();" 5 =
      some
        { kind := .inputProperty
          visibility := none
          name := "input"
          parameters := []
          returnType := none
          accessor := none
          lineNumber := 5 } := by
  have hgetter : text (.method getterLine) =
      "    private static   get get<K>(at = (k: K) => k): Set<K> \x7b go(at); \x7d".toList := by
    decide +kernel
  have hinput : text (.reactive inputLine) =
      "override readonly input!: Signal<Id> = input.required<Id>();".toList := by
    decide +kernel
  rw [← hgetter, ← hinput]
  exact ⟨ofLine?_eq (.method getterLine) 4, ofLine?_eq (.reactive inputLine) 5⟩

end DeclaredLine

end ChangeReview
