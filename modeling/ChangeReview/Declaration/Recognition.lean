import ChangeReview.Declaration.ParameterList
import ChangeReview.Text.Identifier

/-!
# Recognising declarations

A line that begins with words, the last of them a name, declares a method if a parameter list, an
optional return type and an opening brace follow, and a reactive property if a call of a reactive
factory is assigned to the name.

## Main definitions

- `splitWords`: the words before the last one, and the text from the last one on.
- `Declaration.method?`, `Declaration.reactive?`: the two shapes.
- `Declaration.ofLine?`: the declaration that a line begins.
-/

namespace ChangeReview

/-- A word at the head of the text, if blanks and another word follow, and the text from there. -/
def leadingWord? (text : Text) : Option (Text × Text) := do
  let (word, rest) ← takeIdentifier text
  let next := Text.trimStart rest
  if next.length < rest.length && startsIdentifier next then some (word, next) else none

theorem length_lt_of_leadingWord? {text word rest : Text}
    (h : leadingWord? text = some (word, rest)) : rest.length < text.length := by
  simp only [leadingWord?, takeIdentifier, takeName] at h
  split at h
  · simp only [Option.bind_eq_bind, Option.bind_some] at h
    split at h
    · rename_i hlt
      simp only [Bool.and_eq_true, decide_eq_true_eq] at hlt
      have := (List.dropWhile_sublist isIdentifierPart (l := text)).length_le
      simp only [Option.some.injEq, Prod.mk.injEq] at h
      obtain ⟨_, rfl⟩ := h
      omega
    · simp at h
  · simp at h

/-- The words that another word follows, and the text from the last word on. -/
def splitWords (text : Text) : List Text × Text :=
  match _h : leadingWord? text with
  | none => ([], text)
  | some (word, rest) =>
    let (words, last) := splitWords rest
    (word :: words, last)
termination_by text.length
decreasing_by exact length_lt_of_leadingWord? ‹_›

namespace Declaration

/-- The leading access modifier of a list of words, and the other words. -/
def takeVisibility : List Text → Option Visibility × List Text
  | [] => (none, [])
  | word :: words =>
    match Visibility.ofKeyword? word with
    | some visibility => (some visibility, words)
    | none => (none, word :: words)

/-- The words that may stand between a method's access modifier and its accessor keyword. -/
def methodModifiers : List Text := ["static", "async", "override", "abstract"]

/-- The access modifier and accessor before a method's name, if the words are allowed there. -/
def methodWords? (words : List Text) : Option (Option Visibility × Option Accessor) :=
  let (visibility, words) := takeVisibility words
  match words.dropWhile methodModifiers.contains with
  | [] => some (visibility, none)
  | [word] => (Accessor.ofKeyword? word).map fun accessor => (visibility, some accessor)
  | _ => none

/-- Names that are followed by parentheses and a brace without being methods. -/
def nonMethodNames : List Text :=
  ["if", "else", "for", "while", "do", "switch", "catch", "with", "return", "function",
    "constructor", "typeof", "new", "await", "yield", "super", "this"]

/-- The text from the opening parenthesis on, past blanks and one list of type parameters. -/
def fromParenthesis? (text : Text) : Option Text :=
  match Text.trimStart text with
  | '(' :: rest => some ('(' :: rest)
  | '<' :: rest =>
    let isParenthesis (c : Char) := c == '(' || c == ')'
    let generics := rest.takeWhile (!isParenthesis ·)
    let after := rest.dropWhile (!isParenthesis ·)
    if (Text.trimEnd generics).getLast? == some '>' && headIs '(' after then some after
    else none
  | _ => none

/-- Whether blanks and an opening brace come next. -/
def opensBody (text : Text) : Bool := headIs '{' (Text.trimStart text)

/-- The shortest non-empty text without a line feed that a body follows. -/
def untilBody? : Text → Option Text
  | [] => none
  | c :: rest =>
    if c == '\n' then none
    else if opensBody rest then some [c]
    else (untilBody? rest).map (c :: ·)

/-- The return type after a parameter list, where the inner option is absent if none is written
and the outer one if no body follows. -/
def returnType? (text : Text) : Option (Option Text) :=
  match Text.trimStart text with
  | '{' :: _ => some none
  | ':' :: rest =>
    match untilBody? (Text.trimStart rest) with
    | some type => some (some (Text.trim type))
    | none =>
      let gap := rest.takeWhile isBlank
      if opensBody rest && gap.any (· != '\n') then some none else none
  | _ => none

/-- The method that a trimmed line declares. -/
def method? (text : Text) (lineNumber : Nat) : Option Declaration := do
  let (words, last) := splitWords text
  let (visibility, accessor) ← methodWords? words
  let (name, rest) ← takeIdentifier last
  let list ← fromParenthesis? rest
  if nonMethodNames.contains name then none
  let (inner, after) ← Nesting.splitAtClose list
  let returnType ← returnType? after
  some
    { kind := .method
      visibility
      name
      parameters := Parameter.listOfText (inner.drop 1)
      returnType
      accessor
      lineNumber }

/-- The words that may stand between a reactive property's access modifier and its name. -/
def reactiveModifiers : List Text := ["static", "override"]

/-- The access modifier before a reactive property's name, if the words are allowed there. -/
def reactiveWords? (words : List Text) : Option (Option Visibility) :=
  let (visibility, words) := takeVisibility words
  match words.dropWhile reactiveModifiers.contains with
  | [] => some visibility
  | [word] => if word == "readonly".toList then some visibility else none
  | _ => none

/-- The functions that build reactive properties, and what each builds. -/
def factories : List (Text × DeclarationKind) :=
  [("computed", .computedProperty), ("signal", .signal), ("input.required", .inputProperty),
    ("input", .inputProperty), ("output", .outputProperty),
    ("viewChild.required", .viewChildProperty), ("viewChild", .viewChildProperty)]

/-- Whether a call of the function, perhaps with type arguments, stands at the head of the text. -/
def startsCall (function text : Text) : Bool :=
  function.isPrefixOf text &&
    let after := Text.trimStart (text.drop function.length)
    headIs '<' after || headIs '(' after

/-- The kind of property whose factory is called at the head of the text. -/
def factoryCall? (text : Text) : Option DeclarationKind :=
  (factories.find? fun (function, _) => startsCall function text).map Prod.snd

/-- The text after the `=` that follows a property's name, mark and non-empty type. -/
def assigned? (text : Text) : Option Text :=
  let text :=
    match text with
    | '?' :: rest => rest
    | '!' :: rest => rest
    | rest => rest
  match Text.trimStart text with
  | '=' :: rest => some rest
  | ':' :: rest =>
    match Text.splitFirst '=' rest with
    | some (type, value) => if type.isEmpty then none else some value
    | none => none
  | _ => none

/-- The reactive property that a trimmed line declares. -/
def reactive? (text : Text) (lineNumber : Nat) : Option Declaration := do
  let (words, last) := splitWords text
  let visibility ← reactiveWords? words
  let (name, rest) ← takeIdentifier last
  let value ← assigned? rest
  let kind ← factoryCall? (Text.trimStart value)
  some
    { kind
      visibility
      name
      parameters := []
      returnType := none
      accessor := none
      lineNumber }

/-- The declaration that a line begins: a method, or else a reactive property. -/
def ofLine? (line : Text) (lineNumber : Nat) : Option Declaration :=
  let text := Text.trim line
  method? text lineNumber <|> reactive? text lineNumber

end Declaration

end ChangeReview
