import ChangeReview.Proofs.Declaration.WrittenParameter

/-!
# String literals as default values

A default value may be a string literal, with commas, brackets and quotes in it. Whether a quote
ends the literal is decided by the one character before it, and a literal that ends in an escaped
backslash is taken to go on. `WrittenParameter.pieces_listText` says that a list is cut into its
parameters exactly if no literal but that of the last one ends so, and that the names are then read
as they are written.
-/

namespace ChangeReview

/-- Whether a text ends in a backslash and a quote. -/
def endsEscaped (text : Text) : Bool :=
  match text.reverse with
  | quote :: '\\' :: _ => Nesting.isQuote quote
  | _ => false

theorem endsEscaped_eq_false {text : Text} (h : ∀ c ∈ text, Nesting.isQuote c = false) :
    endsEscaped text = false := by
  unfold endsEscaped
  split
  · next quote rest hreverse =>
    have hmem : quote ∈ text.reverse := by simp [hreverse]
    exact h quote (List.mem_reverse.mp hmem)
  · rfl

theorem endsEscaped_literal {quote : Char} (hquote : Nesting.isQuote quote = true) (body : Text) :
    endsEscaped (quote :: (body ++ [quote])) = decide (body.getLast? = some '\\') := by
  have hreverse : (quote :: (body ++ [quote])).reverse = quote :: (body.reverse ++ [quote]) := by
    simp
  rw [endsEscaped, hreverse, ← List.head?_reverse]
  cases body.reverse with
  | nil => simp [Nesting.ne_backslash_of_isQuote hquote]
  | cons c rest =>
    by_cases hc : c = '\\'
    · subst hc
      simpa using hquote
    · simp [hc]

namespace WrittenParameter

/-- Whether the default value ends in a backslash and a quote. -/
def endsEscaped (parameter : WrittenParameter) : Bool :=
  parameter.default.any ChangeReview.endsEscaped

/-- A named parameter whose default is free of quotes or one string literal. -/
structure IsSimple (parameter : WrittenParameter) : Prop where
  binder : ∃ isRest word, parameter.binder = .name isRest word ∧ IsIdentifier word
  type : ∀ type ∈ parameter.type, Nesting.IsPart type
  default : ∀ value ∈ parameter.default, Nesting.IsPart value ∨ Nesting.IsLiteral value

variable {parameter : WrittenParameter} {before : Char}

/-! ## Cutting -/

/-- Behind a parameter the search for commas is inside a literal exactly if the parameter ends in a
backslash and a quote. -/
theorem IsSimple.passes_text (h : parameter.IsSimple) (before : Char) :
    ∃ last quote, (∀ q ∈ quote, Nesting.isQuote q = true) ∧
      quote.isSome = parameter.endsEscaped ∧ Nesting.Passes before parameter.text last quote := by
  obtain ⟨isRest, word, hbinder, hword⟩ := h.binder
  have hfront := isPart_front_append
    (Nesting.isPart_of_isInert (isNameFront hbinder hword).inert) h.type
  rw [text, ← List.append_assoc, defaultText, endsEscaped]
  cases hvalue : parameter.default with
  | none =>
    rw [Option.elim_none, List.append_nil]
    exact ⟨_, none, by simp, rfl, hfront.passes before⟩
  | some value =>
    have hassigned := hfront.append isPart_assignment
    rw [Option.elim_some, ← List.append_assoc, Option.any_some]
    rcases h.default value hvalue with hpart | hliteral
    · rw [endsEscaped_eq_false hpart.no_quote]
      exact ⟨_, none, by simp, rfl, (hassigned.append hpart).passes before⟩
    · cases hliteral with
      | @quoted quote body hquote hbody =>
        refine ⟨quote, if body.getLast? = some '\\' then some quote else none, ?_, ?_,
          (hassigned.passes before).append (Nesting.passes_literal hquote hbody _)⟩
        · intro q hq
          split at hq
          · cases hq
            exact hquote
          · cases hq
        · rw [endsEscaped_literal hquote]
          split <;> simp_all

theorem IsSimple.trim_text_ne_nil (h : parameter.IsSimple) : Text.trim parameter.text ≠ [] := by
  obtain ⟨isRest, word, hbinder, hword⟩ := h.binder
  have hfront := isNameFront hbinder hword
  rw [text, Text.trim_append_right hfront.trimmed hfront.ne_nil]
  simp [hfront.ne_nil]

theorem IsSimple.piecesFrom_text (h : parameter.IsSimple) :
    Nesting.piecesFrom before parameter.text = [Text.trim parameter.text] := by
  obtain ⟨last, quote, _, _, hpasses⟩ := h.passes_text before
  exact hpasses.piecesFrom h.trim_text_ne_nil

theorem IsSimple.piecesFrom_append (h : parameter.IsSimple) (hend : parameter.endsEscaped = false)
    (rest : Text) :
    Nesting.piecesFrom before (parameter.text ++ ',' :: rest) =
      Text.trim parameter.text :: Nesting.piecesFrom ',' rest := by
  obtain ⟨last, quote, _, hquote, hpasses⟩ := h.passes_text before
  obtain rfl : quote = none := by simpa [hend] using hquote
  exact hpasses.piecesFrom_append h.trim_text_ne_nil rest

/-- A comma behind a literal that is taken to go on belongs to the literal. -/
theorem IsSimple.exists_piecesFrom_text (h : parameter.IsSimple)
    (hend : parameter.endsEscaped = true) (rest : Text) :
    ∃ more pieces, Nesting.piecesFrom before (parameter.text ++ ',' :: rest) =
      (parameter.text ++ ',' :: more) :: pieces := by
  obtain ⟨last, quote, hkind, hquote, hpasses⟩ := h.passes_text before
  obtain ⟨q, rfl⟩ := Option.isSome_iff_exists.mp (hquote.trans hend)
  have hq : (',' == q && last != '\\') = false := by
    have hne : ',' ≠ q := by
      rintro rfl
      cases hkind ',' rfl
    simp [hne]
  have hcomma : Nesting.commasFrom last 0 (some q) (',' :: rest) =
      Nesting.consFirst ',' (Nesting.commasFrom ',' 0 (some q) rest) := by
    rw [Nesting.commasFrom]
    simp only [hq, Bool.false_eq_true, ↓reduceIte]
  obtain ⟨part, parts, hmore⟩ :=
    List.exists_cons_of_ne_nil (Nesting.commasFrom_ne_nil ',' 0 (some q) rest)
  have hwhole := hpasses (',' :: rest)
  rw [hcomma, hmore, Nesting.consFirst, Nesting.foldr_consFirst] at hwhole
  have htrimmed : IsTrimmed (parameter.text ++ [',']) := by
    obtain ⟨isRest, word, hbinder, hword⟩ := h.binder
    have hfront := isNameFront hbinder hword
    rw [text]
    exact Text.isTrimmed_append hfront.trimmed (isTrimmed_singleton rfl) hfront.ne_nil (by simp) _
  have htrim : Text.trim (parameter.text ++ ',' :: part) =
      parameter.text ++ ',' :: Text.trimEnd part := by
    have hkept := Text.trim_append_right htrimmed (by simp) part
    simpa using hkept
  exact ⟨Text.trimEnd part, _, by rw [Nesting.piecesFrom, hwhole, List.map_cons, htrim,
    List.filter_cons_of_pos (by simp)]⟩

/-- The list is cut into its parameters exactly if no parameter but the last seems to go on. -/
theorem piecesFrom_listText_iff {parameters : List WrittenParameter}
    (h : ∀ parameter ∈ parameters, parameter.IsSimple) :
    Nesting.piecesFrom before (listText parameters) =
        parameters.map (fun parameter => Text.trim parameter.text) ↔
      ∀ parameter ∈ parameters.dropLast, parameter.endsEscaped = false := by
  induction parameters generalizing before with
  | nil => exact iff_of_true rfl (by simp)
  | cons parameter parameters ih =>
    have hsimple := h parameter List.mem_cons_self
    cases parameters with
    | nil => exact iff_of_true hsimple.piecesFrom_text (by simp)
    | cons next parameters =>
      have hothers := @ih ' ' fun p hp => h p (List.mem_cons_of_mem _ hp)
      have hlist : listText (parameter :: next :: parameters) =
          parameter.text ++ ',' :: ' ' :: listText (next :: parameters) := by
        simp [listText, Text.joinWith_cons_cons]
      rw [hlist, List.dropLast_cons_cons, List.forall_mem_cons, ← hothers]
      cases hend : parameter.endsEscaped with
      | false =>
        rw [hsimple.piecesFrom_append hend, Nesting.piecesFrom_blank, List.map_cons]
        simp
      | true =>
        -- The first piece reaches beyond the parameter.
        obtain ⟨more, pieces, hpieces⟩ :=
          @IsSimple.exists_piecesFrom_text _ before hsimple hend
            (' ' :: listText (next :: parameters))
        have hlong : parameter.text ++ ',' :: more ≠ Text.trim parameter.text := by
          intro heq
          have hlength := Text.length_trim_le parameter.text
          rw [← heq, List.length_append, List.length_cons] at hlength
          omega
        rw [hpieces, List.map_cons]
        simp [hlong]

/-! ## Names -/

theorem isAssignment_trimEnd (value : Text) :
    Nesting.isAssignment ' ' (Text.trimEnd (' ' :: value)) = true := by
  rw [Text.trimEnd, Text.trimEndBy]
  cases Text.trimEndBy isBlank value <;> rfl

/-- The name is read, whatever the type and the default hold. -/
theorem IsSimple.name_ofPiece (h : parameter.IsSimple) :
    (Parameter.ofPiece (Text.trim parameter.text)).name = parameter.binder.boundName := by
  obtain ⟨isRest, word, hbinder, hword⟩ := h.binder
  have hfront := isNameFront hbinder hword
  have hname := hfront.nameOfText
  have htrim := Text.trim_append_right hfront.trimmed hfront.ne_nil
    (parameter.typeText ++ parameter.defaultText)
  rw [text, htrim, Parameter.ofPiece, hfront.startsPattern, if_neg Bool.false_ne_true, hbinder,
    Binder.boundName, typeText, defaultText]
  cases parameter.type with
  | some type =>
    have hcolon (rest : Text) : Text.trimEnd (':' :: rest) = ':' :: Text.trimEnd rest :=
      Text.trimEndBy_append_of_getLast (show [':'].getLast? = some ':' from rfl) rfl rest
    rw [Option.elim_some, List.append_assoc, List.cons_append, hcolon,
      Parameter.ofNamed_colon hfront.inert hfront.no_colon, hname]
    rfl
  | none =>
    rw [Option.elim_none, List.nil_append]
    cases parameter.default with
    | some value =>
      have hequals (rest : Text) :
          Text.trimEnd (' ' :: '=' :: rest) = ' ' :: '=' :: Text.trimEnd rest :=
        Text.trimEndBy_append_of_getLast (show [' ', '='].getLast? = some '=' from rfl) rfl rest
      rw [Option.elim_some, List.cons_append, List.cons_append, List.cons_append, List.nil_append,
        hequals, Parameter.ofNamed_assignment hfront.inert hfront.no_colon
          (isAssignment_trimEnd value), hfront.named [' '] (by decide)]
      rfl
    | none =>
      have hnil : Text.trimEnd [] = [] := rfl
      rw [Option.elim_none, hnil, List.append_nil,
        Parameter.ofNamed_bare hfront.inert hfront.no_colon, hname]
      rfl

/-- The pieces of a list are its parameters exactly if no default but the last ends in an escaped
backslash and its quote, and then the names are read as they are written. -/
theorem pieces_listText {parameters : List WrittenParameter}
    (h : ∀ parameter ∈ parameters, parameter.IsSimple) :
    (Nesting.pieces (listText parameters) =
        parameters.map (fun parameter => Text.trim parameter.text) ↔
      ∀ parameter ∈ parameters.dropLast, parameter.endsEscaped = false) ∧
    ((∀ parameter ∈ parameters.dropLast, parameter.endsEscaped = false) →
      (Parameter.listOfText (listText parameters)).map Parameter.name =
        parameters.map (·.binder.boundName)) := by
  refine ⟨piecesFrom_listText_iff h, fun hclosed => ?_⟩
  have hpieces : Nesting.pieces (listText parameters) = _ := (piecesFrom_listText_iff h).mpr hclosed
  rw [Parameter.listOfText_eq_map_pieces, hpieces, List.map_map, List.map_map]
  exact List.map_congr_left fun p hp => (h p hp).name_ofPiece

/-- Literals with a comma and a bracket, with both kinds of quotes, and with a backslash at the end
of the last. -/
def literalDefaults : List WrittenParameter :=
  [⟨.name false "sep", false, some "string", some "', ]'"⟩,
    ⟨.name false "mark", false, none, some "\"\\\"'\""⟩,
    ⟨.name false "path", false, none, some "'\\\\'"⟩]

theorem pieces_listText_literalDefaults :
    (∀ parameter ∈ literalDefaults, parameter.IsSimple) ∧
      (∀ parameter ∈ literalDefaults.dropLast, parameter.endsEscaped = false) ∧
      listText literalDefaults =
        "sep: string = ', ]', mark = \"\\\"'\", path = '\\\\'".toList ∧
      (Parameter.listOfText (listText literalDefaults)).map Parameter.name =
        ["sep", "mark", "path"] := by
  have hcomma : Nesting.IsLiteral ('\x27' :: ([',', ' ', ']'] ++ ['\x27'])) :=
    .quoted rfl (.plain (by decide) (by decide) (.plain (by decide) (by decide)
      (.plain (by decide) (by decide) .nil)))
  have hquotes : Nesting.IsLiteral ('\x22' :: (['\\', '\x22', '\x27'] ++ ['\x22'])) :=
    .quoted rfl (.escaped (.plain (by decide) (by decide) .nil))
  have hbackslash : Nesting.IsLiteral ('\x27' :: (['\\', '\\'] ++ ['\x27'])) :=
    .quoted rfl (.escaped .nil)
  have hsimple : ∀ parameter ∈ literalDefaults, parameter.IsSimple := by
    refine List.forall_mem_cons.mpr ⟨⟨⟨_, _, rfl, by decide⟩, by decide, ?_⟩, ?_⟩
    · rintro value ⟨⟩
      exact .inr hcomma
    refine List.forall_mem_cons.mpr ⟨⟨⟨_, _, rfl, by decide⟩, by decide, ?_⟩, ?_⟩
    · rintro value ⟨⟩
      exact .inr hquotes
    refine List.forall_mem_singleton.mpr ⟨⟨_, _, rfl, by decide⟩, by decide, ?_⟩
    · rintro value ⟨⟩
      exact .inr hbackslash
  have hclosed : ∀ parameter ∈ literalDefaults.dropLast, parameter.endsEscaped = false := by decide
  exact ⟨hsimple, hclosed, by decide +kernel, (pieces_listText hsimple).2 hclosed⟩

/-- A literal that ends in an escaped backslash, before another parameter. -/
def backslashDefault : List WrittenParameter :=
  [⟨.name false "sep", false, none, some "'\\\\'"⟩,
    ⟨.name false "count", false, some "number", none⟩]

/-- The parameter behind such a literal is lost. -/
theorem listOfText_backslashDefault :
    (∀ parameter ∈ backslashDefault, parameter.IsSimple) ∧
      listText backslashDefault = "sep = '\\\\', count: number".toList ∧
      (Parameter.listOfText (listText backslashDefault)).map Parameter.name = ["sep"] ∧
      backslashDefault.map (·.binder.boundName) = ["sep", "count"] := by
  have hbackslash : Nesting.IsLiteral ('\x27' :: (['\\', '\\'] ++ ['\x27'])) :=
    .quoted rfl (.escaped .nil)
  refine ⟨List.forall_mem_cons.mpr ⟨⟨⟨_, _, rfl, by decide⟩, by decide, ?_⟩, ?_⟩, ?_⟩
  · rintro value ⟨⟩
    exact .inr hbackslash
  · exact List.forall_mem_singleton.mpr ⟨⟨_, _, rfl, by decide⟩, by decide, nofun⟩
  · decide +kernel

end WrittenParameter

end ChangeReview
