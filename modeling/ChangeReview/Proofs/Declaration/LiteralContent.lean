import ChangeReview.Proofs.Declaration.NameFront
import ChangeReview.Proofs.Nesting.Replacement

/-!
# What a default literal holds

A default value ends the text that a parameter's name and type are read from. What a string literal
there holds makes no difference to the parameter, as `Parameter.ofText?_literal` says, as long as
its brackets are balanced.
-/

namespace ChangeReview

/-- A string literal with the content between its quotes. -/
def literal (quote : Char) (content : Text) : Text := quote :: (content ++ [quote])

section

variable {quote : Char} {content : Text}

theorem isBlank_quote (hquote : Nesting.isQuote quote = true) : isBlank quote = false := by
  rcases Nesting.isQuote_cases hquote with rfl | rfl | rfl <;> rfl

theorem balanced_quote (hquote : Nesting.isQuote quote = true) : Nesting.Balanced [quote] := by
  rcases Nesting.isQuote_cases hquote with rfl | rfl | rfl <;> decide

theorem balanced_literal (hquote : Nesting.isQuote quote = true)
    (hcontent : Nesting.Balanced content) : Nesting.Balanced (literal quote content) :=
  (balanced_quote hquote).append (hcontent.append (balanced_quote hquote))

theorem getLastD_literal (quote : Char) (content : Text) (before : Char) :
    (literal quote content).getLastD before = quote := by
  rw [literal, ← List.cons_append, List.getLastD_concat]

theorem passes_plainLiteral (hquote : Nesting.isQuote quote = true) (hcontent : quote ∉ content)
    (hbackslash : '\\' ∉ content) (before : Char) :
    Nesting.Passes before (literal quote content) quote none := by
  have hbody := Nesting.isLiteralBody_of_notMem hcontent hbackslash
  have hpasses := Nesting.passes_literal hquote hbody before
  rwa [if_neg fun hlast => hbackslash (List.mem_of_getLast? hlast)] at hpasses

end

theorem Text.trimStart_append_equals (text rest : Text) :
    Text.trimStart (text ++ '=' :: rest) = Text.trimStart text ++ '=' :: rest := by
  rw [Text.trimStart, Text.trimStartBy, List.dropWhile_append]
  split
  · next hempty =>
    rw [Text.trimStart, Text.trimStartBy, List.isEmpty_iff.mp hempty]
    rfl
  · rfl

/-! ## One parameter -/

namespace Parameter

variable {front text rest next : Text}

/-- The type before a default value does not depend on the value. -/
theorem typeOfText_eq (lead : Text)
    (h : Nesting.splitAssignment (lead ++ (text ++ '=' :: rest)) = some (lead ++ text, rest))
    (hhead : next.head? = rest.head?) :
    typeOfText (text ++ '=' :: next) = typeOfText (text ++ '=' :: rest) := by
  obtain ⟨before, depth, hsplit⟩ := Nesting.exists_assignmentFrom_of_append h
  obtain ⟨left, hleft⟩ := Nesting.exists_assignmentFrom_eq hsplit (.inr rfl) (Nat.zero_le depth)
  obtain ⟨right, hnext⟩ := hleft next hhead
  obtain ⟨other, hrest⟩ := hleft rest rfl
  rw [typeOfText, Nesting.splitAssignment, hnext, typeOfText, Nesting.splitAssignment, hrest]
  rfl

theorem ofNamed_eq
    (h : Nesting.splitAssignment (front ++ '=' :: rest) = some (front, rest))
    (hhead : next.head? = rest.head?) :
    ofNamed (front ++ '=' :: next) = ofNamed (front ++ '=' :: rest) := by
  obtain ⟨left, hleft⟩ := Nesting.exists_assignmentFrom_eq h (.inl rfl) (le_refl 0)
  obtain ⟨right, hnext⟩ := hleft next hhead
  obtain ⟨_, hrest⟩ := hleft rest rfl
  have hfront : left = front := by
    rw [Nesting.splitAssignment, hrest] at h
    cases h
    rfl
  subst hfront
  have hdeclared : Nesting.splitAssignment (left ++ '=' :: next) = some (left, right) := hnext
  rw [ofNamed, ofNamed, h, hdeclared]
  simp only [Option.map_some, Option.getD_some]
  by_cases hcolon : ':' ∈ left
  · obtain ⟨name, type, rfl, hname⟩ := List.eq_append_cons_of_mem hcolon
    have hdrop (value : Text) : (name ++ ':' :: type ++ '=' :: value).drop (name.length + 1) =
        type ++ '=' :: value := by simp
    have htype : typeOfText (type ++ '=' :: next) = typeOfText (type ++ '=' :: rest) := by
      refine typeOfText_eq (name ++ [':']) ?_ hhead
      simpa using h
    rw [Text.splitFirst_append hname]
    simp only [hdrop, htype]
  · rw [Text.splitFirst_of_notMem hcolon]

theorem dropMark_append_equals (text rest : Text) :
    dropMark '?' (text ++ '=' :: rest) = dropMark '?' text ++ '=' :: rest := by
  cases text with
  | nil => rfl
  | cons c text =>
    have hhead : headIs '?' (c :: (text ++ '=' :: rest)) = headIs '?' (c :: text) := rfl
    rw [dropMark, dropMark, List.cons_append, hhead]
    split <;> rfl

/-- Nor does the type behind a pattern. -/
theorem patternType_eq (hpattern : startsPattern front = true)
    (h : Nesting.splitAssignment (front ++ '=' :: rest) = some (front, rest))
    (hhead : next.head? = rest.head?) (hrest : Nesting.Balanced ('=' :: rest))
    (hnext : Nesting.Balanced ('=' :: next)) :
    patternType (front ++ '=' :: next) = patternType (front ++ '=' :: rest) := by
  obtain ⟨opener, inside, rfl, hopener⟩ :
      ∃ opener inside, front = opener :: inside ∧ Nesting.isOpener opener = true := by
    cases front with
    | nil => cases hpattern
    | cons opener inside =>
      refine ⟨opener, inside, rfl, ?_⟩
      rw [startsPattern, Bool.or_eq_true] at hpattern
      rcases hpattern with hbrace | hbracket
      · obtain rfl : opener = '{' := by simpa [headIs] using hbrace
        rfl
      · obtain rfl : opener = '[' := by simpa [headIs] using hbracket
        rfl
  rw [patternType, patternType, List.cons_append, List.cons_append,
    Nesting.splitAtClose_cons hopener, Nesting.splitAtClose_cons hopener]
  cases hdepth : Nesting.depthFrom? opener 0 inside with
  | some depth =>
    -- The pattern is still open at the equals sign, and no literal behind it closes it.
    rw [Nesting.closeFrom_append hdepth, Nesting.closeFrom_append hdepth,
      hnext.closeFrom_eq_none, hrest.closeFrom_eq_none]
  | none =>
    obtain ⟨inner, closer, after, hinside, hclose⟩ :=
      Nesting.closeFrom_of_depthFrom?_eq_none hdepth
    rw [hclose, hclose]
    simp only [Option.map_some, Option.getD_some, Text.trimStart_append_equals,
      dropMark_append_equals]
    obtain ⟨skipped, hskipped⟩ :
        Text.trimStart (dropMark '?' (Text.trimStart after)) <:+ after := by
      have hmark (text : Text) : dropMark '?' text <:+ text := by
        rw [dropMark]
        split
        · exact List.drop_suffix 1 text
        · exact List.suffix_refl text
      exact (List.dropWhile_suffix _).trans ((hmark _).trans (List.dropWhile_suffix _))
    cases hkept : Text.trimStart (dropMark '?' (Text.trimStart after)) with
    | nil => rfl
    | cons c type =>
      have hcolon (rest : Text) : headIs ':' (c :: type ++ '=' :: rest) = headIs ':' (c :: type) :=
        rfl
      rw [hcolon, hcolon]
      split
      · refine typeOfText_eq (opener :: (inner ++ closer :: (skipped ++ [c]))) ?_ hhead
        rw [hkept] at hskipped
        rw [hinside, ← hskipped] at h
        simpa using h
      · rfl

/-- A parameter with a literal as its default is read the same, whatever the literal holds. -/
theorem ofText?_literal {lead gap tail content : Text} {quote : Char}
    (hquote : Nesting.isQuote quote = true) (hcontent : Nesting.Balanced content)
    (hlead : IsBlankText lead) (hgap : IsBlankText gap) (htail : IsBlankText tail)
    (hhead : ∀ c, front.head? = some c → isBlank c = false)
    (h : Nesting.splitAssignment (front ++ '=' :: (gap ++ literal quote [])) =
      some (front, gap ++ literal quote [])) :
    ofText? (lead ++ (front ++ '=' :: (gap ++ literal quote content)) ++ tail) =
      ofText? (lead ++ (front ++ '=' :: (gap ++ literal quote [])) ++ tail) := by
  have htrim (content : Text) :
      Text.trim (lead ++ (front ++ '=' :: (gap ++ literal quote content)) ++ tail) =
        front ++ '=' :: (gap ++ literal quote content) := by
    rw [Text.trim_append hlead htail, Text.trim_of_isTrimmed]
    constructor
    · intro c hc
      cases front with
      | nil =>
        cases hc
        rfl
      | cons first front => exact hhead c hc
    · intro c hc
      have hlast : front ++ '=' :: (gap ++ literal quote content) =
          (front ++ '=' :: (gap ++ quote :: content)) ++ [quote] := by simp [literal]
      rw [hlast, List.getLast?_concat, Option.some.injEq] at hc
      exact hc ▸ isBlank_quote hquote
  have hsame (content : Text) : (gap ++ literal quote content).head? =
      (gap ++ literal quote []).head? := by
    cases gap <;> rfl
  have hvalue {content : Text} (hcontent : Nesting.Balanced content) :
      Nesting.Balanced ('=' :: (gap ++ literal quote content)) :=
    have hequals : Nesting.Balanced ['='] := by decide
    have hblank : Nesting.Balanced gap :=
      Nesting.balanced_of_isInert fun c hc => isInert_of_isBlank (hgap c hc)
    hequals.append (hblank.append (balanced_literal hquote hcontent))
  have hpattern (content : Text) : startsPattern (front ++ '=' :: (gap ++ literal quote content)) =
      startsPattern front := by
    cases front <;> rfl
  rw [ofText?, ofText?, htrim, htrim]
  simp only [hpattern]
  cases hfront : startsPattern front with
  | true =>
    rw [patternType_eq hfront h (hsame content) (hvalue (show Nesting.Balanced [] from rfl))
      (hvalue hcontent)]
    simp
  | false =>
    rw [ofNamed_eq h (hsame content)]
    simp

end Parameter

end ChangeReview
