import ChangeReview.Declaration.Recognition
import ChangeReview.Proofs.Nesting.Balance
import ChangeReview.Proofs.Text.Identifier

/-!
# Reading a line part by part

Words with any blanks between them are read one after another, up to a name that no word follows.
`Declaration.method?_append` and `Declaration.reactive?_append` say what a whole line is read as,
from what is read of its words and of the text behind its name.
-/

namespace ChangeReview

/-! ## Words -/

/-- A written word with the blanks that separate it from the next one. -/
structure SpacedWord where
  word : Text
  gap : Text
  gap_blank : IsBlankText gap
  gap_ne_nil : gap ≠ []

namespace SpacedWord

/-- The word with one space behind it. -/
def single (word : Text) : SpacedWord := ⟨word, [' '], by decide, by decide⟩

/-- The words in a row, each with its blanks. -/
def line (words : List SpacedWord) : Text := words.flatMap fun spaced => spaced.word ++ spaced.gap

end SpacedWord

variable {name : Text}

/-- A name ends before blanks and a character that is no part of it. -/
theorem IsAsciiName.takeIdentifier_gap (h : IsAsciiName name) {gap : Text} (hgap : IsBlankText gap)
    {c : Char} (hc : isIdentifierPart c = false) (rest : Text) :
    takeIdentifier (name ++ (gap ++ c :: rest)) = some (name, gap ++ c :: rest) := by
  apply h.takeIdentifier_append
  intro d hd
  rcases hgap.eq_or_isBlank_of_head? hd with rfl | hblank
  · exact hc
  · exact isIdentifierPart_of_isBlank hblank

theorem startsIdentifier_cons {c : Char} (hc : isIdentifierPart c = false) (rest : Text) :
    startsIdentifier (c :: rest) = false := by
  by_contra h
  have hstart : isIdentifierStart c = true := by simpa [startsIdentifier] using h
  rw [isIdentifierPart_of_isAsciiNamePart (isAsciiNamePart_of_isIdentifierStart hstart)] at hc
  cases hc

theorem leadingWord?_eq_none (h : IsAsciiName name) {gap : Text} (hgap : IsBlankText gap) {c : Char}
    (hc : isIdentifierPart c = false) (hblank : isBlank c = false) (rest : Text) :
    leadingWord? (name ++ (gap ++ c :: rest)) = none := by
  simp [leadingWord?, h.takeIdentifier_gap hgap hc, Text.trimStart_append_cons hgap hblank,
    startsIdentifier_cons hc]

theorem leadingWord?_append (spaced : SpacedWord) (hword : IsAsciiName spaced.word) {next : Text}
    (hnext : startsIdentifier next = true) :
    leadingWord? (spaced.word ++ (spaced.gap ++ next)) = some (spaced.word, next) := by
  obtain ⟨word, gap, hgap, hne⟩ := spaced
  obtain ⟨c, gap, rfl⟩ := List.exists_cons_of_ne_nil hne
  have hpart := isIdentifierPart_of_isBlank (hgap c List.mem_cons_self)
  have htake : takeIdentifier (word ++ (c :: gap ++ next)) = some (word, c :: gap ++ next) :=
    hword.takeIdentifier_gap isBlankText_nil hpart (gap ++ next)
  have hshorter : next.length < (c :: gap ++ next).length := by
    rw [List.cons_append, List.length_cons, List.length_append]
    omega
  simp only [leadingWord?, htake, Option.bind_eq_bind, Option.bind_some,
    trimStart_of_startsIdentifier hgap hnext, hnext, hshorter, decide_true, Bool.and_self, if_true]

theorem startsIdentifier_line {words : List SpacedWord}
    (hwords : ∀ spaced ∈ words, IsAsciiName spaced.word) {last : Text}
    (hstarts : startsIdentifier last = true) :
    startsIdentifier (SpacedWord.line words ++ last) = true := by
  cases words with
  | nil => exact hstarts
  | cons spaced words =>
    rw [SpacedWord.line, List.flatMap_cons, List.append_assoc, List.append_assoc]
    exact (hwords spaced List.mem_cons_self).starts_append _

/-- The words before a name are read one after another. -/
theorem splitWords_append {words : List SpacedWord}
    (hwords : ∀ spaced ∈ words, IsAsciiName spaced.word) {last : Text}
    (hstarts : startsIdentifier last = true) (hlast : leadingWord? last = none) :
    splitWords (SpacedWord.line words ++ last) = (words.map SpacedWord.word, last) := by
  induction words with
  | nil =>
    rw [SpacedWord.line, List.flatMap_nil, List.nil_append, splitWords]
    split
    · rfl
    · next h => rw [hlast] at h; cases h
  | cons spaced words ih =>
    have hword := hwords spaced List.mem_cons_self
    have hothers := fun w hw => hwords w (List.mem_cons_of_mem _ hw)
    have hline : SpacedWord.line (spaced :: words) ++ last =
        spaced.word ++ (spaced.gap ++ (SpacedWord.line words ++ last)) := by
      simp [SpacedWord.line]
    -- Either another word follows or the text where the reading stops.
    have hnext := startsIdentifier_line hothers hstarts
    have hleading := leadingWord?_append spaced hword hnext
    rw [hline, splitWords]
    split
    · next h => rw [hleading] at h; cases h
    · next h =>
      rw [hleading, Option.some.injEq, Prod.mk.injEq] at h
      obtain ⟨rfl, rfl⟩ := h
      rw [ih hothers, List.map_cons]

/-- Trimming a line takes its indentation off, and nothing before a character that is not blank. -/
theorem trim_indented {indent head : Text} (hindent : IsBlankText indent)
    (hhead : startsIdentifier head = true) {c : Char} (hc : isBlank c = false) (rest : Text) :
    Text.trim (indent ++ (head ++ c :: rest)) = head ++ c :: Text.trimEnd rest := by
  have htrimmed : IsTrimmed (head ++ [c]) := by
    constructor
    · intro d hd
      have hstarts := startsIdentifier_append hhead [c]
      rw [startsIdentifier, hd, Option.any_some] at hstarts
      exact isBlank_of_isAsciiNamePart (isAsciiNamePart_of_isIdentifierStart hstarts)
    · intro d hd
      rw [List.getLast?_concat, Option.some.injEq] at hd
      exact hd ▸ hc
  rw [Text.trim_append_left hindent, List.append_cons, Text.trim_append_right htrimmed (by simp),
    ← List.append_cons]

theorem forall_isAsciiName_of_map {words : List SpacedWord} {texts : List Text}
    (hwords : words.map SpacedWord.word = texts) (h : ∀ word ∈ texts, IsAsciiName word) :
    ∀ spaced ∈ words, IsAsciiName spaced.word := by
  subst hwords
  exact List.forall_mem_map.mp h

namespace Declaration

variable {visibility : Option Visibility} {modifiers : List Text}

theorem isAsciiName_of_keyword (visibility : Visibility) : IsAsciiName visibility.keyword := by
  cases visibility <;> decide

/-- The access modifier is found if none of the other words is one. -/
theorem takeVisibility_append {others : List Text}
    (h : ∀ word ∈ others, Visibility.ofKeyword? word = none) :
    takeVisibility (visibility.toList.map Visibility.keyword ++ others) = (visibility, others) := by
  cases visibility with
  | some visibility =>
    have hkeyword : Visibility.ofKeyword? visibility.keyword = some visibility := by
      cases visibility <;> decide
    simp [takeVisibility, hkeyword]
  | none =>
    cases others with
    | nil => rfl
    | cons word others => simp [takeVisibility, h word List.mem_cons_self]

/-- The words before the name of a method, in the order in which they are written. -/
def methodWords (visibility : Option Visibility) (modifiers : List Text)
    (accessor : Option Accessor) : List Text :=
  visibility.toList.map Visibility.keyword ++ (modifiers ++ accessor.toList.map Accessor.keyword)

/-- The words before the name of a reactive member, in the order in which they are written. -/
def reactiveWords (visibility : Option Visibility) (modifiers : List Text) (readonly : Bool) :
    List Text :=
  visibility.toList.map Visibility.keyword ++
    (modifiers ++ if readonly then ["readonly".toList] else [])

theorem isAsciiName_of_mem_methodWords (hmodifiers : ∀ word ∈ modifiers, word ∈ methodModifiers)
    (accessor : Option Accessor) :
    ∀ word ∈ methodWords visibility modifiers accessor, IsAsciiName word := by
  have hallowed : ∀ word ∈ methodModifiers, IsAsciiName word := by decide
  have haccessor : ∀ word ∈ accessor.toList.map Accessor.keyword, IsAsciiName word := by
    rcases accessor with _ | _ | _ <;> decide
  exact List.forall_mem_append.mpr ⟨List.forall_mem_map.mpr fun v _ => isAsciiName_of_keyword v,
    List.forall_mem_append.mpr ⟨fun word hword => hallowed word (hmodifiers word hword), haccessor⟩⟩

theorem isAsciiName_of_mem_reactiveWords
    (hmodifiers : ∀ word ∈ modifiers, word ∈ reactiveModifiers) (readonly : Bool) :
    ∀ word ∈ reactiveWords visibility modifiers readonly, IsAsciiName word := by
  have hallowed : ∀ word ∈ reactiveModifiers, IsAsciiName word := by decide
  have hreadonly : ∀ word ∈ if readonly then ["readonly".toList] else [], IsAsciiName word := by
    cases readonly <;> decide
  exact List.forall_mem_append.mpr ⟨List.forall_mem_map.mpr fun v _ => isAsciiName_of_keyword v,
    List.forall_mem_append.mpr ⟨fun word hword => hallowed word (hmodifiers word hword), hreadonly⟩⟩

/-- The access modifier and accessor are found around any number of other modifiers. -/
theorem methodWords?_methodWords (hmodifiers : ∀ word ∈ modifiers, word ∈ methodModifiers)
    (accessor : Option Accessor) :
    methodWords? (methodWords visibility modifiers accessor) = some (visibility, accessor) := by
  have hothers : ∀ word ∈ modifiers ++ accessor.toList.map Accessor.keyword,
      Visibility.ofKeyword? word = none := by
    have hallowed : ∀ word ∈ methodModifiers, Visibility.ofKeyword? word = none := by decide
    refine List.forall_mem_append.mpr ⟨fun word hword => hallowed word (hmodifiers word hword), ?_⟩
    rcases accessor with _ | _ | _ <;> decide
  have hdrop : (modifiers ++ accessor.toList.map Accessor.keyword).dropWhile
      methodModifiers.contains = accessor.toList.map Accessor.keyword := by
    rw [List.dropWhile_append_of_pos fun word hword =>
      List.contains_iff_mem.mpr (hmodifiers word hword)]
    rcases accessor with _ | _ | _ <;> decide
  simp only [methodWords?, methodWords, takeVisibility_append hothers, hdrop]
  rcases accessor with _ | _ | _ <;> rfl

/-- The access modifier is found before any number of other modifiers. -/
theorem reactiveWords?_reactiveWords (hmodifiers : ∀ word ∈ modifiers, word ∈ reactiveModifiers)
    (readonly : Bool) :
    reactiveWords? (reactiveWords visibility modifiers readonly) = some visibility := by
  have hothers : ∀ word ∈ modifiers ++ if readonly then ["readonly".toList] else [],
      Visibility.ofKeyword? word = none := by
    have hallowed : ∀ word ∈ reactiveModifiers, Visibility.ofKeyword? word = none := by decide
    refine List.forall_mem_append.mpr ⟨fun word hword => hallowed word (hmodifiers word hword), ?_⟩
    cases readonly <;> decide
  have hdrop : (modifiers ++ if readonly then ["readonly".toList] else []).dropWhile
      reactiveModifiers.contains = if readonly then ["readonly".toList] else [] := by
    rw [List.dropWhile_append_of_pos fun word hword =>
      List.contains_iff_mem.mpr (hmodifiers word hword)]
    cases readonly <;> decide
  simp only [reactiveWords?, reactiveWords, takeVisibility_append hothers, hdrop]
  cases readonly <;> simp

/-! ## The return type -/

theorem opensBody_append {gap : Text} (hgap : IsBlankText gap) (rest : Text) :
    opensBody (gap ++ '{' :: rest) = true := by
  rw [opensBody, Text.trimStart_append_cons hgap rfl]
  rfl

theorem opensBody_eq_false {text : Text} {last : Char} (hlast : text.getLast? = some last)
    (hblank : isBlank last = false) (hbrace : '{' ∉ text) (rest : Text) :
    opensBody (text ++ rest) = false := by
  obtain ⟨lead, htext, hlead, hhead⟩ := Text.exists_trimStartBy isBlank text
  generalize Text.trimStartBy isBlank text = start at htext hhead
  cases start with
  | nil =>
    rw [List.append_nil] at htext
    rw [hlead last (htext ▸ List.mem_of_getLast? hlast)] at hblank
    cases hblank
  | cons c start =>
    have hc : c ≠ '{' := by
      rintro rfl
      exact hbrace (htext ▸ List.mem_append_right _ List.mem_cons_self)
    have htrim : Text.trimStart (text ++ rest) = c :: (start ++ rest) := by
      rw [htext, List.append_assoc]
      exact Text.trimStart_append_cons hlead (hhead c rfl) _
    rw [opensBody, htrim]
    simp [headIs, hc]

/-- A type goes on to its last character before the body if no brace stands behind its first. -/
theorem untilBody?_append {type after : Text} {last : Char} (hlast : type.getLast? = some last)
    (hblank : isBlank last = false) (hbrace : '{' ∉ type.tail) (hfeed : '\n' ∉ type)
    (hafter : opensBody after = true) : untilBody? (type ++ after) = some type := by
  induction type with
  | nil => cases hlast
  | cons c type ih =>
    rw [List.mem_cons, not_or] at hfeed
    rw [List.tail_cons] at hbrace
    have hc : (c == '\n') = false := beq_eq_false_iff_ne.mpr (Ne.symm hfeed.1)
    rw [List.cons_append, untilBody?, hc, if_neg Bool.false_ne_true]
    cases type with
    | nil => rw [List.nil_append, if_pos hafter]
    | cons d type =>
      rw [List.getLast?_cons_cons] at hlast
      -- The rest of the type comes before the brace, and it is not blank.
      rw [opensBody_eq_false hlast hblank hbrace, if_neg Bool.false_ne_true,
        ih hlast (fun hmem => hbrace (List.mem_of_mem_tail hmem)) hfeed.2, Option.map_some]

/-- A return type without a brace behind its first character is read back, whatever blanks stand
around it. -/
theorem returnType?_append_of_tail {type : Text} (hne : type ≠ []) (htrimmed : IsTrimmed type)
    (hbrace : '{' ∉ type.tail) (hfeed : '\n' ∉ type) {before gap after : Text}
    (hbefore : IsBlankText before) (hgap : IsBlankText gap) (hafter : IsBlankText after)
    (body : Text) :
    returnType? (before ++ ':' :: (gap ++ (type ++ (after ++ '{' :: body)))) =
      some (some type) := by
  obtain ⟨last, hlast⟩ : ∃ last, type.getLast? = some last :=
    Option.ne_none_iff_exists'.mp (by simpa using hne)
  have hcolon : Text.trimStart (before ++ ':' :: (gap ++ (type ++ (after ++ '{' :: body)))) =
      ':' :: (gap ++ (type ++ (after ++ '{' :: body))) :=
    Text.trimStart_append_cons hbefore rfl _
  have hstart : Text.trimStart (gap ++ (type ++ (after ++ '{' :: body))) =
      type ++ (after ++ '{' :: body) := by
    refine Text.trimStart_append hgap fun c hc => htrimmed.1 c ?_
    rwa [List.head?_append_of_ne_nil _ hne] at hc
  have huntil := untilBody?_append hlast (htrimmed.2 last hlast) hbrace hfeed
    (opensBody_append hafter body)
  rw [returnType?, hcolon]
  simp only [hstart, huntil, Text.trim_of_isTrimmed htrimmed]

/-- A return type as a line can show it between a colon and the opening brace. -/
structure IsReturnType (type : Text) : Prop where
  ne_nil : type ≠ []
  isTrimmed : IsTrimmed type
  /-- The first brace of the line opens the body. -/
  no_brace : '{' ∉ type
  /-- A line goes no further than a line feed. -/
  no_lineFeed : '\n' ∉ type

instance : DecidablePred IsReturnType := fun type =>
  decidable_of_iff (type ≠ [] ∧ IsTrimmed type ∧ '{' ∉ type ∧ '\n' ∉ type)
    ⟨fun ⟨hne, htrimmed, hbrace, hfeed⟩ => ⟨hne, htrimmed, hbrace, hfeed⟩,
      fun h => ⟨h.1, h.2, h.3, h.4⟩⟩

theorem returnType?_append {type : Text} (h : IsReturnType type) {before gap after : Text}
    (hbefore : IsBlankText before) (hgap : IsBlankText gap) (hafter : IsBlankText after)
    (body : Text) :
    returnType? (before ++ ':' :: (gap ++ (type ++ (after ++ '{' :: body)))) =
      some (some type) :=
  returnType?_append_of_tail h.ne_nil h.isTrimmed
    (fun hmem => h.no_brace (List.mem_of_mem_tail hmem)) h.no_lineFeed hbefore hgap hafter body

theorem returnType?_absent {gap : Text} (hgap : IsBlankText gap) (body : Text) :
    returnType? (gap ++ '{' :: body) = some none := by
  have hbrace : Text.trimStart (gap ++ '{' :: body) = '{' :: body :=
    Text.trimStart_append_cons hgap rfl _
  simp only [returnType?, hbrace]

/-! ## Methods -/

/-- Type parameters in their brackets, if there are any. -/
def genericsText (generics : Option Text) : Text :=
  (generics.map fun inner => '<' :: (inner ++ ['>'])).getD []

/-- Type parameters without parentheses are passed over. -/
theorem fromParenthesis?_append {generics : Option Text}
    (h : ∀ inner ∈ generics, '(' ∉ inner ∧ ')' ∉ inner) (rest : Text) :
    fromParenthesis? (genericsText generics ++ '(' :: rest) = some ('(' :: rest) := by
  cases generics with
  | none => rfl
  | some inner =>
    obtain ⟨hopen, hclose⟩ := h inner rfl
    have hinner : ∀ c ∈ inner ++ ['>'], (!(c == '(' || c == ')')) = true := by
      intro c hc
      rcases List.mem_append.mp hc with hc | hc
      · have h1 : c ≠ '(' := fun heq => hopen (heq ▸ hc)
        have h2 : c ≠ ')' := fun heq => hclose (heq ▸ hc)
        simp [h1, h2]
      · rw [List.mem_singleton.mp hc]
        rfl
    have hangle : Text.trimStart ('<' :: (inner ++ ['>'] ++ '(' :: rest)) =
        '<' :: (inner ++ ['>'] ++ '(' :: rest) := rfl
    have hend : Text.trimEnd (inner ++ ['>']) = inner ++ ['>'] :=
      Text.trimEndBy_of_getLast fun c hc => by
        rw [List.getLast?_concat, Option.some.injEq] at hc
        subst hc
        rfl
    simp only [genericsText, Option.map_some, Option.getD_some, List.cons_append,
      fromParenthesis?, hangle, List.takeWhile_append_of_pos hinner,
      List.dropWhile_append_of_pos hinner]
    simp [hend, headIs]

/-- What is read of the parts of a line makes the method. -/
theorem method?_append {accessor : Option Accessor} {words : List SpacedWord}
    (hwords : words.map SpacedWord.word = methodWords visibility modifiers accessor)
    (hmodifiers : ∀ word ∈ modifiers, word ∈ methodModifiers) (hname : IsAsciiName name)
    (hallowed : name ∉ nonMethodNames) {generics : Option Text}
    (hgenerics : ∀ inner ∈ generics, '(' ∉ inner ∧ ')' ∉ inner) {list after : Text}
    (hlist : Nesting.Balanced list) {returnType : Option Text}
    (hreturn : returnType? after = some returnType) (lineNumber : Nat) :
    method? (SpacedWord.line words ++
        (name ++ (genericsText generics ++ '(' :: (list ++ ')' :: after)))) lineNumber =
      some
        { kind := .method
          visibility
          name
          parameters := Parameter.listOfText list
          returnType
          accessor
          lineNumber } := by
  -- Either bracket ends the name.
  obtain ⟨c, rest, hafter, hpart, hblank⟩ : ∃ c rest,
      genericsText generics ++ '(' :: (list ++ ')' :: after) = c :: rest ∧
        isIdentifierPart c = false ∧ isBlank c = false := by
    cases generics with
    | none => exact ⟨'(', _, rfl, by decide, rfl⟩
    | some inner => exact ⟨'<', _, rfl, by decide, rfl⟩
  have htake := hname.takeIdentifier_gap isBlankText_nil hpart rest
  have hsplit := splitWords_append
    (forall_isAsciiName_of_map hwords (isAsciiName_of_mem_methodWords hmodifiers accessor))
    (hname.starts_append _) (leadingWord?_eq_none hname isBlankText_nil hpart hblank rest)
  have hclose := Nesting.splitAtClose_enclosed (show ('(', ')') ∈ _ from List.mem_cons_self)
    hlist after
  rw [List.nil_append, ← hafter] at htake hsplit
  simp only [method?, hsplit, hwords, methodWords?_methodWords hmodifiers, htake,
    fromParenthesis?_append hgenerics, hclose, hreturn, Option.bind_eq_bind, Option.bind_some,
    List.contains_iff_mem, hallowed, if_false, List.drop_succ_cons, List.drop_zero]

/-! ## Reactive properties -/

/-- A type with the colon before it, if there is one. -/
def annotationText (type : Option Text) : Text := (type.map (':' :: ·)).getD []

theorem exists_annotationText_append (type : Option Text) (value : Text) :
    ∃ c rest, annotationText type ++ '=' :: value = c :: rest ∧ (c = ':' ∨ c = '=') := by
  cases type with
  | none => exact ⟨'=', value, rfl, Or.inr rfl⟩
  | some type => exact ⟨':', type ++ '=' :: value, rfl, Or.inl rfl⟩

/-- After blanks, a mark, a colon or an equals sign follows the name of a reactive property. -/
theorem exists_mark_append {mark : Option Char} (hmark : ∀ c ∈ mark, c = '?' ∨ c = '!')
    {gap : Text} (hgap : IsBlankText gap) (type : Option Text) (value : Text) :
    ∃ lead c rest, mark.toList ++ (gap ++ (annotationText type ++ '=' :: value)) =
        lead ++ c :: rest ∧ IsBlankText lead ∧ c ∈ ['?', '!', ':', '='] := by
  cases mark with
  | some c => exact ⟨[], c, _, rfl, isBlankText_nil, by rcases hmark c rfl with rfl | rfl <;> simp⟩
  | none =>
    obtain ⟨c, rest, htext, hc⟩ := exists_annotationText_append type value
    exact ⟨gap, c, rest, by rw [htext]; rfl, hgap, by rcases hc with rfl | rfl <;> simp⟩

theorem assigned?_of_head {text : Text} (h : ∀ c, text.head? = some c → c ≠ '?' ∧ c ≠ '!') :
    assigned? text = assigned? ('?' :: text) := by
  cases text with
  | nil => rfl
  | cons c text =>
    obtain ⟨hquestion, hbang⟩ := h c rfl
    simp [assigned?, hquestion, hbang]

theorem assigned?_append {mark : Option Char} (hmark : ∀ c ∈ mark, c = '?' ∨ c = '!')
    {gap : Text} (hgap : IsBlankText gap) {type : Option Text}
    (htype : ∀ text ∈ type, text ≠ [] ∧ '=' ∉ text) (value : Text) :
    assigned? (mark.toList ++ (gap ++ (annotationText type ++ '=' :: value))) = some value := by
  generalize hrest : gap ++ (annotationText type ++ '=' :: value) = rest
  have hmarked : assigned? ('?' :: rest) = some value := by
    cases type with
    | none =>
      have htrim : Text.trimStart rest = '=' :: value :=
        hrest ▸ Text.trimStart_append_cons hgap rfl value
      simp only [assigned?, htrim]
    | some type =>
      obtain ⟨hne, hassign⟩ := htype type rfl
      have htrim : Text.trimStart rest = ':' :: (type ++ '=' :: value) :=
        hrest ▸ Text.trimStart_append_cons hgap rfl (type ++ '=' :: value)
      simp [assigned?, htrim, Text.splitFirst_append hassign, hne]
  cases mark with
  | some c =>
    rcases hmark c rfl with rfl | rfl
    · exact hmarked
    · exact hmarked
  | none =>
    rw [← hmarked, Option.toList_none, List.nil_append]
    refine assigned?_of_head fun c hc => ?_
    obtain ⟨d, after, hafter, hd⟩ := exists_annotationText_append type value
    rw [← hrest, hafter] at hc
    rcases hgap.eq_or_isBlank_of_head? hc with rfl | hblank
    · rcases hd with rfl | rfl <;> decide
    · constructor <;> rintro rfl <;> cases hblank

/-- A call of a factory is read as what the factory builds. -/
theorem factoryCall?_append {function : Text} {kind : DeclarationKind}
    (h : (function, kind) ∈ factories) {opener : Char} (hopener : opener = '(' ∨ opener = '<')
    (rest : Text) : factoryCall? (function ++ opener :: rest) = some kind := by
  simp only [factories, List.mem_cons, Prod.mk.injEq, List.not_mem_nil, or_false] at h
  rcases h with ⟨rfl, rfl⟩ | ⟨rfl, rfl⟩ | ⟨rfl, rfl⟩ | ⟨rfl, rfl⟩ | ⟨rfl, rfl⟩ | ⟨rfl, rfl⟩ |
    ⟨rfl, rfl⟩ <;> rcases hopener with rfl | rfl <;> rfl

variable {words : List SpacedWord} {readonly : Bool}

/-- What is read of the parts of a line makes the reactive property, and no method. -/
theorem reactive?_append
    (hwords : words.map SpacedWord.word = reactiveWords visibility modifiers readonly)
    (hmodifiers : ∀ word ∈ modifiers, word ∈ reactiveModifiers) (hname : IsAsciiName name)
    {mark : Option Char} (hmark : ∀ c ∈ mark, c = '?' ∨ c = '!') {gap valueGap : Text}
    (hgap : IsBlankText gap) (hvalueGap : IsBlankText valueGap) {type : Option Text}
    (htype : ∀ text ∈ type, text ≠ [] ∧ '=' ∉ text) {function : Text} {kind : DeclarationKind}
    (hfactory : (function, kind) ∈ factories) {opener : Char}
    (hopener : opener = '(' ∨ opener = '<') (rest : Text) (lineNumber : Nat) :
    let text := SpacedWord.line words ++ (name ++ (mark.toList ++ (gap ++ (annotationText type ++
      '=' :: (valueGap ++ (function ++ opener :: rest))))))
    method? text lineNumber = none ∧ reactive? text lineNumber =
      some
        { kind
          visibility
          name
          parameters := []
          returnType := none
          accessor := none
          lineNumber } := by
  intro text
  obtain ⟨lead, c, after, hafter, hlead, hc⟩ := exists_mark_append hmark hgap type
    (valueGap ++ (function ++ opener :: rest))
  have hpart : isIdentifierPart c = false := by
    have hmarks : ∀ c ∈ ['?', '!', ':', '='], isIdentifierPart c = false := by decide
    exact hmarks c hc
  have hblank : isBlank c = false := by
    have hmarks : ∀ c ∈ ['?', '!', ':', '='], isBlank c = false := by decide
    exact hmarks c hc
  have htake := hname.takeIdentifier_gap hlead hpart after
  have hsplit := splitWords_append
    (forall_isAsciiName_of_map hwords (isAsciiName_of_mem_reactiveWords hmodifiers readonly))
    (hname.starts_append _) (leadingWord?_eq_none hname hlead hpart hblank after)
  have hparenthesis : fromParenthesis? (lead ++ c :: after) = none := by
    rw [fromParenthesis?, Text.trimStart_append_cons hlead hblank]
    simp only [List.mem_cons, List.not_mem_nil, or_false] at hc
    rcases hc with rfl | rfl | rfl | rfl <;> rfl
  rw [← hafter] at htake hsplit hparenthesis
  constructor
  · simp only [text, method?, hsplit, htake, hparenthesis, Option.bind_eq_bind, Option.bind_some,
      Option.bind_none, Option.bind_fun_none]
  · have hcall : Text.trimStart (valueGap ++ (function ++ opener :: rest)) =
        function ++ opener :: rest := by
      have hstarts : ∀ factory ∈ factories, startsIdentifier factory.1 = true := by decide
      exact trimStart_of_startsIdentifier hvalueGap
        (startsIdentifier_append (hstarts _ hfactory) _)
    simp only [text, reactive?, hsplit, hwords, reactiveWords?_reactiveWords hmodifiers, htake,
      assigned?_append hmark hgap htype, hcall, factoryCall?_append hfactory hopener,
      Option.bind_eq_bind, Option.bind_some]

end Declaration

end ChangeReview
