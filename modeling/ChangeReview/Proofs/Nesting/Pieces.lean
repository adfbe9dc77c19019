import ChangeReview.Declaration.ParameterList
import ChangeReview.Proofs.Nesting.Balance
import ChangeReview.Proofs.Text.Trimming

/-!
# The pieces of a list

`Nesting.Passes` describes the texts that the search for commas passes over: texts with balanced
brackets and no quotes, and string literals. `Nesting.passes_literal` says that the search leaves a
literal at its closing quote, unless the character before that quote is a backslash.
-/

namespace ChangeReview.Nesting

variable {before last final : Char} {quote : Option Char} {text : Text}

theorem foldr_consFirst (text part : Text) (parts : List Text) :
    text.foldr consFirst (part :: parts) = (text ++ part) :: parts := by
  induction text with
  | nil => rfl
  | cons c text ih => rw [List.foldr_cons, ih]; rfl

theorem consFirst_ne_nil (c : Char) (parts : List Text) : consFirst c parts ≠ [] := by
  cases parts <;> simp [consFirst]

theorem commasFrom_ne_nil (before : Char) (depth : Nat) (quote : Option Char) (text : Text) :
    commasFrom before depth quote text ≠ [] := by
  cases text with
  | nil => simp [commasFrom]
  | cons c text =>
    cases quote with
    | some quote =>
      rw [commasFrom]
      exact consFirst_ne_nil _ _
    | none =>
      rw [commasFrom]
      split_ifs
      · exact consFirst_ne_nil _ _
      · exact List.cons_ne_nil _ _
      · exact consFirst_ne_nil _ _

/-- Behind `before`, the search for commas passes over the text without cutting it. It goes on
behind `last`, inside the literal `quote` if there is one. -/
def Passes (before : Char) (text : Text) (last : Char) (quote : Option Char) : Prop :=
  ∀ rest, commasFrom before 0 none (text ++ rest) =
    text.foldr consFirst (commasFrom last 0 quote rest)

theorem IsPart.passes (h : IsPart text) (before : Char) :
    Passes before text (text.getLastD before) none := h.commasFrom_append before

theorem Passes.append (h : Passes before text last none) {rest : Text}
    (hrest : Passes last rest final quote) : Passes before (text ++ rest) final quote := by
  intro tail
  rw [List.append_assoc, h, hrest, List.foldr_append]

/-! ## String literals -/

/-- What stands between the quotes of a literal. A backslash takes the next character with it. -/
inductive IsLiteralBody (quote : Char) : Text → Prop
  | nil : IsLiteralBody quote []
  | plain {c : Char} {rest : Text} (hquote : c ≠ quote) (hbackslash : c ≠ '\\')
      (hrest : IsLiteralBody quote rest) : IsLiteralBody quote (c :: rest)
  | escaped {c : Char} {rest : Text} (hrest : IsLiteralBody quote rest) :
      IsLiteralBody quote ('\\' :: c :: rest)

/-- A string literal between quotes of one kind. -/
inductive IsLiteral : Text → Prop
  | quoted {quote : Char} {body : Text} (hquote : isQuote quote = true)
      (hbody : IsLiteralBody quote body) : IsLiteral (quote :: (body ++ [quote]))

theorem ne_backslash_of_isQuote {quote : Char} (h : isQuote quote = true) : quote ≠ '\\' := by
  rintro rfl
  cases h

/-- The body of a literal holds no quote that would end it. -/
theorem commasFrom_literalBody {quote : Char} (hquote : isQuote quote = true) {body : Text}
    (h : IsLiteralBody quote body) (before : Char) (depth : Nat) (rest : Text) :
    commasFrom before depth (some quote) (body ++ rest) =
      body.foldr consFirst (commasFrom (body.getLastD before) depth (some quote) rest) := by
  induction h generalizing before with
  | nil => rfl
  | @plain c body hne _ _ ih =>
    have hopen : (c == quote && before != '\\') = false := by simp [hne]
    rw [List.cons_append, commasFrom]
    simp only [hopen, Bool.false_eq_true, ↓reduceIte]
    rw [ih, List.foldr_cons, List.getLastD_cons]
  | @escaped c body _ ih =>
    have hopen : ('\\' == quote && before != '\\') = false := by
      simp [(ne_backslash_of_isQuote hquote).symm]
    have hescaped : (c == quote && '\\' != '\\') = false := by simp
    rw [List.cons_append, commasFrom]
    simp only [hopen, Bool.false_eq_true, ↓reduceIte]
    rw [List.cons_append, commasFrom]
    simp only [hescaped, Bool.false_eq_true, ↓reduceIte]
    rw [ih, List.foldr_cons, List.foldr_cons, List.getLastD_cons, List.getLastD_cons]

theorem isLiteralBody_of_notMem {quote : Char} {body : Text} (hquote : quote ∉ body)
    (hbackslash : '\\' ∉ body) : IsLiteralBody quote body := by
  induction body with
  | nil => exact .nil
  | cons c body ih =>
    rw [List.mem_cons, not_or] at hquote hbackslash
    exact .plain (Ne.symm hquote.1) (Ne.symm hbackslash.1) (ih hquote.2 hbackslash.2)

/-- The search leaves a literal at its closing quote, unless the character before that quote is a
backslash. -/
theorem commasFrom_literal {quote : Char} (hquote : isQuote quote = true) {body : Text}
    (h : IsLiteralBody quote body) (before : Char) (depth : Nat) (rest : Text) :
    commasFrom before depth none (quote :: (body ++ [quote]) ++ rest) =
      (quote :: (body ++ [quote])).foldr consFirst (commasFrom quote depth
        (if body.getLast? = some '\\' then some quote else none) rest) := by
  have hlast : (quote == quote && body.getLastD quote != '\\') =
      !decide (body.getLast? = some '\\') := by
    rw [List.getLastD_eq_getLast?]
    cases body.getLast? with
    | none => simp [ne_backslash_of_isQuote hquote]
    | some last => simp [bne, Bool.beq_eq_decide_eq]
  rw [List.cons_append, commasFrom]
  simp only [hquote, ↓reduceIte]
  rw [List.append_assoc, commasFrom_literalBody hquote h, List.cons_append, List.nil_append,
    commasFrom]
  simp only [hlast]
  split <;> simp_all

theorem passes_literal {quote : Char} (hquote : isQuote quote = true) {body : Text}
    (h : IsLiteralBody quote body) (before : Char) :
    Passes before (quote :: (body ++ [quote])) quote
      (if body.getLast? = some '\\' then some quote else none) :=
  commasFrom_literal hquote h before 0

/-! ## Pieces -/

theorem Passes.commasFrom (h : Passes before text last quote) :
    commasFrom before 0 none text = [text] := by
  have hend : Nesting.commasFrom last 0 quote [] = [[]] := by cases quote <;> rfl
  have hparts := h []
  rwa [List.append_nil, hend, foldr_consFirst, List.append_nil] at hparts

theorem Passes.commasFrom_append (h : Passes before text last none) (rest : Text) :
    Nesting.commasFrom before 0 none (text ++ ',' :: rest) =
      text :: Nesting.commasFrom ',' 0 none rest := by
  have hcomma : Nesting.commasFrom last 0 none (',' :: rest) =
      [] :: Nesting.commasFrom ',' 0 none rest := rfl
  rw [h, hcomma, foldr_consFirst, List.append_nil]

/-- The texts between the commas, without blanks around them and without blank ones, given the
character before the list. -/
def piecesFrom (before : Char) (text : Text) : List Text :=
  ((commasFrom before 0 none text).map Text.trim).filter (!·.isEmpty)

/-- The texts between the commas, without blanks around them and without blank ones. -/
def pieces (text : Text) : List Text := piecesFrom '\x00' text

theorem piecesFrom_blank (rest : Text) : piecesFrom before (' ' :: rest) = piecesFrom ' ' rest := by
  have htrim (part : Text) : Text.trim (' ' :: part) = Text.trim part :=
    Text.trim_append_left (show IsBlankText [' '] by decide) part
  have hparts : commasFrom before 0 none (' ' :: rest) =
      consFirst ' ' (commasFrom ' ' 0 none rest) := rfl
  rw [piecesFrom, hparts, piecesFrom]
  cases commasFrom ' ' 0 none rest with
  | nil => rfl
  | cons part parts => rw [consFirst, List.map_cons, htrim, List.map_cons]

theorem Passes.piecesFrom (h : Passes before text last quote) (hne : Text.trim text ≠ []) :
    piecesFrom before text = [Text.trim text] := by
  simp [Nesting.piecesFrom, h.commasFrom, hne]

theorem Passes.piecesFrom_append (h : Passes before text last none) (hne : Text.trim text ≠ [])
    (rest : Text) :
    Nesting.piecesFrom before (text ++ ',' :: rest) =
      Text.trim text :: Nesting.piecesFrom ',' rest := by
  simp [Nesting.piecesFrom, h.commasFrom_append, hne]

/-- The pieces of a list, perhaps with a comma behind the last, are what was joined to it. -/
theorem piecesFrom_joinWith {texts : List Text}
    (h : ∀ text ∈ texts, IsPart text ∧ Text.trim text ≠ []) (trailing : Bool) :
    piecesFrom before (Text.joinWith [',', ' '] texts ++ if trailing then [','] else []) =
      texts.map Text.trim := by
  induction texts generalizing before with
  | nil => cases trailing <;> rfl
  | cons text texts ih =>
    obtain ⟨hpart, hne⟩ := h text List.mem_cons_self
    have hpasses := hpart.passes before
    cases texts with
    | nil =>
      cases trailing with
      | false =>
        rw [if_neg Bool.false_ne_true, List.append_nil]
        exact hpasses.piecesFrom hne
      | true =>
        rw [if_pos rfl]
        exact hpasses.piecesFrom_append hne []
    | cons next texts =>
      rw [Text.joinWith_cons_cons, List.append_assoc, List.append_assoc, List.cons_append,
        hpasses.piecesFrom_append hne, List.cons_append, List.nil_append, piecesFrom_blank,
        ih fun t ht => h t (List.mem_cons_of_mem _ ht)]
      rfl

end ChangeReview.Nesting
