import ChangeReview.Proofs.Declaration.NameFront

/-!
# Parameters as a list shows them

`WrittenParameter` is a name or a destructuring pattern with an optional type and an optional
default value. `WrittenParameter.listOfText_listText` says that the list written from such
parameters is read back parameter by parameter, whatever brackets their types, defaults and patterns
nest.
-/

namespace ChangeReview

/-- What a parameter binds. -/
inductive Binder where
  /-- A name, behind spread dots if it gathers the remaining arguments. -/
  | name (isRest : Bool) (word : Text)
  | pattern (text : Text)
  deriving DecidableEq, Repr

namespace Binder

/-- What is written for the binder, with its spread dots. -/
def text : Binder → Text
  | name isRest word => (if isRest then ['.', '.', '.'] else []) ++ word
  | pattern text => text

/-- The name that documentation uses. -/
def boundName : Binder → Text
  | name _ word => word
  | pattern _ => Parameter.destructuredName

end Binder

/-- A parameter as a list shows it. -/
structure WrittenParameter where
  binder : Binder
  isOptional : Bool
  type : Option Text
  default : Option Text
  deriving DecidableEq, Repr

namespace WrittenParameter

/-- The text before the type and the default. -/
def front (parameter : WrittenParameter) : Text :=
  parameter.binder.text ++ if parameter.isOptional then ['?'] else []

/-- The colon and the type, if one is written. -/
def typeText (parameter : WrittenParameter) : Text :=
  parameter.type.elim [] ([':', ' '] ++ ·)

/-- The equals sign and the default, if one is written. -/
def defaultText (parameter : WrittenParameter) : Text :=
  parameter.default.elim [] ([' ', '=', ' '] ++ ·)

/-- The parameter as the list shows it. -/
def text (parameter : WrittenParameter) : Text :=
  parameter.front ++ (parameter.typeText ++ parameter.defaultText)

/-- The parameters with commas between them. -/
def listText (parameters : List WrittenParameter) : Text :=
  Text.joinWith [',', ' '] (parameters.map text)

/-- The name and type that are written. -/
def toParameter (written : WrittenParameter) : Parameter :=
  ⟨written.binder.boundName, written.type.getD Parameter.unknownType⟩

end WrittenParameter

/-! ## What can be written -/

/-- A destructuring pattern: a bracket, balanced text, and the bracket that closes the first. -/
inductive IsPattern : Text → Prop
  | bracketed {opener closer : Char} {inner : Text} (hopener : opener = '{' ∨ opener = '[')
      (hbalanced : Nesting.Balanced inner)
      (hcloser : Nesting.isCloser (inner.getLastD opener) closer = true)
      (hquotes : ∀ c ∈ inner, Nesting.isQuote c = false) :
      IsPattern (opener :: (inner ++ [closer]))

/-- A binder that is read back: a name, or a pattern that its own bracket closes. -/
inductive Binder.IsReadable : Binder → Prop
  | name (isRest : Bool) {word : Text} (hword : IsIdentifier word) : IsReadable (.name isRest word)
  | pattern {text : Text} (htext : IsPattern text) : IsReadable (.pattern text)

/-- A value as the search for commas takes it for one part. -/
structure IsValue (text : Text) : Prop extends Nesting.IsPart text where
  ne_nil : text ≠ []
  trimmed : IsTrimmed text

instance : DecidablePred IsValue := fun text =>
  decidable_of_iff (Nesting.IsPart text ∧ text ≠ [] ∧ IsTrimmed text)
    ⟨fun ⟨hpart, hne, htrimmed⟩ => ⟨hpart, hne, htrimmed⟩, fun h => ⟨h.toIsPart, h.2, h.3⟩⟩

/-- A type, outside whose brackets `=` only draws arrows. -/
structure IsType (text : Text) : Prop extends IsValue text where
  arrows : ∀ entry ∈ Nesting.topLevel text, entry.1 = '=' → headIs '>' entry.2 = true

instance : DecidablePred IsType := fun text =>
  decidable_of_iff (IsValue text ∧ ∀ entry ∈ Nesting.topLevel text,
      entry.1 = '=' → headIs '>' entry.2 = true)
    ⟨fun ⟨hvalue, harrows⟩ => ⟨hvalue, harrows⟩, fun h => ⟨h.toIsValue, h.2⟩⟩

/-- A parameter whose type and default hold no string literal. -/
structure WrittenParameter.IsPlain (parameter : WrittenParameter) : Prop where
  binder : parameter.binder.IsReadable
  type : ∀ type ∈ parameter.type, IsType type
  default : ∀ value ∈ parameter.default, IsValue value

/-! ## Patterns -/

theorem IsPattern.isPart {pattern : Text} (h : IsPattern pattern) : Nesting.IsPart pattern := by
  cases h with
  | @bracketed opener closer inner hopener hbalanced hcloser hquotes =>
    have hopens : Nesting.isOpener opener = true := by rcases hopener with rfl | rfl <;> rfl
    have hquote : Nesting.isQuote opener = false := by rcases hopener with rfl | rfl <;> rfl
    have hcomma : opener ≠ ',' := by rcases hopener with rfl | rfl <;> decide
    have hstart := @Nesting.isCloser_of_isOpener '\x00' _ hopens
    have hend := Nesting.isCloser_spec hcloser
    have hstep : Nesting.step '\x00' opener 0 = 1 := by rw [Nesting.step, if_pos hopens]
    have hinner := hbalanced.depthFrom? opener
    refine ⟨?_, ?_, ?_⟩
    · -- The brackets lift the text between them by one, and the last takes the depth back.
      rw [Nesting.Balanced, Nesting.depthFrom?_cons (by simp [hstart]), hstep,
        Nesting.depthFrom?_append (Nesting.depthFrom?_succ hinner),
        Nesting.depthFrom?_cons (by simp), Nesting.step, if_neg (by simp [hend]), if_pos hcloser]
      rfl
    · exact List.forall_mem_cons.mpr
        ⟨hquote, List.forall_mem_append.mpr ⟨hquotes, by simp [hend]⟩⟩
    · rw [Nesting.topLevel, Nesting.topLevelFrom, hstep, Nesting.topLevelFrom_succ hinner]
      simpa [Nesting.topLevelFrom] using hcomma

theorem IsPattern.isTrimmed {pattern : Text} (h : IsPattern pattern) :
    IsTrimmed pattern ∧ pattern ≠ [] := by
  cases h with
  | @bracketed opener closer inner hopener _ hcloser =>
    have hfirst : IsTrimmed [opener] := by
      rcases hopener with rfl | rfl <;> exact isTrimmed_singleton rfl
    have hlast : IsTrimmed [closer] := by
      refine isTrimmed_singleton ?_
      by_contra hblank
      exact isInert_of_isBlank (by simpa using hblank) (Nesting.mem_marks_of_isCloser hcloser)
    exact ⟨Text.isTrimmed_append hfirst hlast (by simp) (by simp) inner, by simp⟩

theorem IsPattern.startsPattern {pattern : Text} (h : IsPattern pattern) (rest : Text) :
    Parameter.startsPattern (pattern ++ rest) = true := by
  cases h with
  | bracketed hopener => rcases hopener with rfl | rfl <;> rfl

theorem IsPattern.splitAtClose {pattern : Text} (h : IsPattern pattern) (rest : Text) :
    (Nesting.splitAtClose (pattern ++ rest)).map Prod.snd = some rest := by
  cases h with
  | @bracketed opener closer inner hopener hbalanced hcloser =>
    have hopens : Nesting.isOpener opener = true := by rcases hopener with rfl | rfl <;> rfl
    rw [List.cons_append, List.append_assoc, List.singleton_append,
      Nesting.splitAtClose_bracketed hopens hbalanced hcloser, Option.map_some]

/-! ## Reading the type -/

namespace Parameter

/-- The type ends before the default value. -/
theorem typeOfText_append {type : Text} (h : IsType type) (default : Option Text) :
    typeOfText (' ' :: (type ++ default.elim [] ([' ', '=', ' '] ++ ·))) = type := by
  have hblank : IsBlankText [' '] := by decide
  have htrim : Text.trim (' ' :: type) = type := by
    rw [← List.singleton_append, Text.trim_append_left hblank, Text.trim_of_isTrimmed h.trimmed]
  have hdepth : Nesting.depthFrom? '\x00' 0 (' ' :: type) = some 0 := h.balanced.depthFrom? ' '
  have harrows : ∀ entry ∈ Nesting.topLevelFrom '\x00' 0 (' ' :: type),
      entry.1 = '=' → headIs '>' entry.2 = true := by
    have hlevel : Nesting.topLevelFrom '\x00' 0 (' ' :: type) =
        (' ', type) :: Nesting.topLevel type := by
      rw [← h.balanced.topLevelFrom ' ']
      rfl
    rw [hlevel]
    exact List.forall_mem_cons.mpr
      ⟨fun heq => absurd (show ' ' = '=' from heq) (by decide), h.arrows⟩
  cases default with
  | none =>
    rw [Option.elim_none, List.append_nil, typeOfText, Nesting.splitAssignment,
      Nesting.assignmentFrom_eq_none harrows, Option.map_none, Option.getD_none, htrim]
  | some value =>
    rw [Option.elim_some, ← List.cons_append, typeOfText, Nesting.splitAssignment,
      Nesting.assignmentFrom_append hdepth harrows, Option.map_some, Option.getD_some]
    have hend := Text.trim_append isBlankText_nil hblank (' ' :: type)
    rwa [List.nil_append, htrim] at hend

/-- The type behind a pattern and its question mark. -/
theorem patternType_append {pattern : Text} (hpattern : IsPattern pattern) (isOptional : Bool)
    {type : Option Text} (htype : ∀ written, type = some written → IsType written)
    (default : Option Text) :
    patternType (pattern ++ ((if isOptional then ['?'] else []) ++
      (type.elim [] ([':', ' '] ++ ·) ++ default.elim [] ([' ', '=', ' '] ++ ·)))) =
      type.getD [] := by
  rw [patternType, hpattern.splitAtClose, Option.getD_some]
  -- Behind the question mark stands a colon, an equals sign or nothing.
  cases type with
  | some written =>
    have hread := typeOfText_append (htype written rfl) default
    cases isOptional <;> exact hread
  | none => cases isOptional <;> cases default <;> rfl

end Parameter

namespace WrittenParameter

variable {parameter : WrittenParameter}

theorem front_eq_markedName {isRest : Bool} {word : Text}
    (hbinder : parameter.binder = .name isRest word) :
    parameter.front = markedName isRest word parameter.isOptional := by
  rw [front, hbinder, Binder.text, List.append_assoc, markedName]

theorem isNameFront {isRest : Bool} {word : Text} (hbinder : parameter.binder = .name isRest word)
    (hword : IsIdentifier word) : IsNameFront parameter.front word := by
  rw [front_eq_markedName hbinder]
  exact hword.isNameFront isRest parameter.isOptional

/-! ## Reading a piece -/

theorem ofPiece_name {front word : Text} (hfront : IsNameFront front word) {type : Option Text}
    (htype : ∀ written, type = some written → IsType written) (default : Option Text) :
    Parameter.ofPiece (front ++
      (type.elim [] ([':', ' '] ++ ·) ++ default.elim [] ([' ', '=', ' '] ++ ·))) =
      ⟨word, type.getD Parameter.unknownType⟩ := by
  have hword := hfront.nameOfText
  rw [Parameter.ofPiece, hfront.startsPattern, if_neg Bool.false_ne_true]
  cases type with
  | some written =>
    have hwritten := htype written rfl
    rw [Option.elim_some, List.append_assoc, List.cons_append, List.cons_append, List.nil_append,
      Parameter.ofNamed_colon hfront.inert hfront.no_colon, hword,
      Parameter.typeOfText_append hwritten default]
    simp [Parameter.ofParts, hwritten.ne_nil]
  | none =>
    cases default with
    | none =>
      rw [Option.elim_none, Option.elim_none, List.append_nil, List.append_nil,
        Parameter.ofNamed_bare hfront.inert hfront.no_colon, hword]
      rfl
    | some value =>
      rw [Option.elim_none, Option.elim_some, List.nil_append, List.cons_append, List.cons_append,
        Parameter.ofNamed_assignment hfront.inert hfront.no_colon rfl,
        hfront.named [' '] (by decide)]
      rfl

theorem IsPlain.ofPiece_text (h : parameter.IsPlain) :
    Parameter.ofPiece parameter.text = parameter.toParameter := by
  obtain ⟨binder, isOptional, type, default⟩ := parameter
  obtain ⟨hbinder, htype, _⟩ := h
  cases hbinder with
  | name isRest hword => exact ofPiece_name (isNameFront rfl hword) htype default
  | @pattern pattern hpattern =>
    have hread := Parameter.patternType_append hpattern isOptional htype default
    rw [text, front, List.append_assoc, Parameter.ofPiece, Binder.text, hpattern.startsPattern,
      if_pos rfl, typeText, defaultText, hread]
    cases type with
    | none => rfl
    | some written =>
      simp [Parameter.ofParts, toParameter, Binder.boundName, (htype written rfl).ne_nil]

/-! ## Writing a piece -/

theorem isTrimmed_text (hfront : IsTrimmed parameter.front ∧ parameter.front ≠ [])
    (htype : ∀ type, parameter.type = some type → IsTrimmed type ∧ type ≠ [])
    (hdefault : ∀ value, parameter.default = some value → IsTrimmed value ∧ value ≠ []) :
    IsTrimmed parameter.text := by
  rw [text, typeText, defaultText]
  cases hvalue : parameter.default with
  | some value =>
    obtain ⟨hlast, hne⟩ := hdefault value hvalue
    rw [Option.elim_some, ← List.append_assoc, ← List.append_assoc,
      List.append_assoc parameter.front]
    exact Text.isTrimmed_append hfront.1 hlast hfront.2 hne _
  | none =>
    rw [Option.elim_none, List.append_nil]
    cases hwritten : parameter.type with
    | some type =>
      obtain ⟨hlast, hne⟩ := htype type hwritten
      rw [Option.elim_some, ← List.append_assoc]
      exact Text.isTrimmed_append hfront.1 hlast hfront.2 hne _
    | none => simpa using hfront.1

/-- Before its default a parameter is one part if its front is. -/
theorem isPart_front_append (hfront : Nesting.IsPart parameter.front)
    (htype : ∀ type, parameter.type = some type → Nesting.IsPart type) :
    Nesting.IsPart (parameter.front ++ parameter.typeText) := by
  rw [typeText]
  cases hwritten : parameter.type with
  | none => simpa using hfront
  | some type =>
    have hcolon : Nesting.IsPart [':', ' '] := Nesting.isPart_of_isInert (by decide)
    exact hfront.append (hcolon.append (htype type hwritten))

theorem isPart_assignment : Nesting.IsPart [' ', '=', ' '] := by decide

theorem IsPlain.isPart_text (h : parameter.IsPlain) : Nesting.IsPart parameter.text := by
  obtain ⟨hbinder, htype, hdefault⟩ := h
  have hfront : Nesting.IsPart parameter.front := by
    rw [front]
    have hmark : Nesting.IsPart (if parameter.isOptional then ['?'] else []) := by
      cases parameter.isOptional <;> decide
    generalize hequal : parameter.binder = binder at hbinder
    cases hbinder with
    | name isRest hword =>
      have hinert := (isNameFront hequal hword).inert
      rw [front, hequal] at hinert
      exact Nesting.isPart_of_isInert hinert
    | pattern hpattern => exact hpattern.isPart.append hmark
  have hbefore := isPart_front_append hfront fun type heq => (htype type heq).toIsPart
  rw [text, ← List.append_assoc, defaultText]
  cases hvalue : parameter.default with
  | none => simpa using hbefore
  | some value =>
    exact hbefore.append (isPart_assignment.append (hdefault value hvalue).toIsPart)

theorem isTrimmed_front (hbinder : parameter.binder.IsReadable) :
    IsTrimmed parameter.front ∧ parameter.front ≠ [] := by
  generalize hequal : parameter.binder = binder at hbinder
  cases hbinder with
  | name isRest hword =>
    have hname := isNameFront hequal hword
    exact ⟨hname.trimmed, hname.ne_nil⟩
  | pattern hpattern =>
    obtain ⟨htrimmed, hne⟩ := hpattern.isTrimmed
    rw [front, hequal, Binder.text]
    cases parameter.isOptional with
    | false => simpa using ⟨htrimmed, hne⟩
    | true =>
      have hquestion : IsTrimmed ['?'] := isTrimmed_singleton rfl
      have hmark := Text.isTrimmed_append htrimmed hquestion hne (by simp) []
      rw [List.append_nil] at hmark
      exact ⟨hmark, by simp⟩

theorem text_ne_nil (hbinder : parameter.binder.IsReadable) : parameter.text ≠ [] := by
  rw [text]
  simp [(isTrimmed_front hbinder).2]

theorem IsPlain.trim_text (h : parameter.IsPlain) : Text.trim parameter.text = parameter.text := by
  refine Text.trim_of_isTrimmed (isTrimmed_text (isTrimmed_front h.binder) ?_ ?_)
  · exact fun type heq => ⟨(h.type type heq).trimmed, (h.type type heq).ne_nil⟩
  · exact fun value heq => ⟨(h.default value heq).trimmed, (h.default value heq).ne_nil⟩

/-- A parameter list is read back, whatever its types, defaults and patterns nest. -/
theorem listOfText_listText {parameters : List WrittenParameter}
    (h : ∀ parameter ∈ parameters, parameter.IsPlain) (trailing : Bool) :
    Parameter.listOfText (listText parameters ++ if trailing then [','] else []) =
      parameters.map toParameter := by
  have hpieces : ∀ piece ∈ parameters.map text,
      Nesting.IsPart piece ∧ Text.trim piece ≠ [] := by
    refine List.forall_mem_map.mpr fun p hp => ⟨(h p hp).isPart_text, ?_⟩
    rw [(h p hp).trim_text]
    exact text_ne_nil (h p hp).binder
  rw [listText, Parameter.listOfText_joinWith hpieces, List.map_map]
  refine List.map_congr_left fun p hp => ?_
  rw [Function.comp_apply, (h p hp).trim_text, (h p hp).ofPiece_text]

/-- A pattern with a default, a rest parameter, an arrow as a default and an optional name. -/
def nestedParameters : List WrittenParameter :=
  [⟨.pattern "[id, \x7b at \x7d]", false, some "Map<A, (n: B) => C>", some "[]"⟩,
    ⟨.name true "größe", false, some "A[]", none⟩,
    ⟨.name false "key", false, none, some "(a, b) => a"⟩,
    ⟨.name false "at", true, none, none⟩]

theorem listOfText_listText_nestedParameters :
    listText nestedParameters ++ [','] =
        "[id, \x7b at \x7d]: Map<A, (n: B) => C> = [], ".toList ++
          "...größe: A[], key = (a, b) => a, at?,".toList ∧
      Parameter.listOfText (listText nestedParameters ++ [',']) =
        [⟨"destructured", "Map<A, (n: B) => C>"⟩, ⟨"größe", "A[]"⟩, ⟨"key", "unknown"⟩,
          ⟨"at", "unknown"⟩] := by
  have hpattern : IsPattern ('[' :: ("id, \x7b at \x7d".toList ++ [']'])) :=
    .bracketed (.inr rfl) (by decide) (by decide) (by decide)
  have hplain : ∀ parameter ∈ nestedParameters, parameter.IsPlain := by
    refine List.forall_mem_cons.mpr ⟨⟨.pattern hpattern, by decide, by decide⟩, ?_⟩
    refine List.forall_mem_cons.mpr ⟨⟨.name true (by decide +kernel), by decide, by decide⟩, ?_⟩
    refine List.forall_mem_cons.mpr ⟨⟨.name false (by decide), by decide, by decide⟩, ?_⟩
    exact List.forall_mem_singleton.mpr ⟨.name false (by decide), by decide, by decide⟩
  exact ⟨by decide +kernel, listOfText_listText hplain true⟩

end WrittenParameter

end ChangeReview
