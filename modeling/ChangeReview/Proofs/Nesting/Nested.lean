import ChangeReview.Proofs.Nesting.Balance

/-!
# Properly nested text

The searches of bracket nesting count all four kinds of brackets with one number. `Nesting.Nested` is
the grammar of the texts in which each bracket is closed by one of its own kind. In such a text the
count never falls below the depth it began with and comes back to it at the end, so that one number
is enough: `Nesting.splitAtClose_nested`.
-/

namespace ChangeReview.Nesting

/-- The kinds of brackets, each with its opening and its closing character. -/
def kinds : List (Char × Char) := [('(', ')'), ('<', '>'), ('{', '}'), ('[', ']')]

/-- A character that opens or closes a bracket of some kind. -/
def IsBracket (c : Char) : Prop := ∃ kind ∈ kinds, c = kind.1 ∨ c = kind.2

instance : DecidablePred IsBracket := fun c =>
  inferInstanceAs (Decidable (∃ kind ∈ kinds, c = kind.1 ∨ c = kind.2))

/-- The closing character does not make an arrow with the end of the text before it. -/
def ClosesBehind (inner : Text) (closer : Char) : Prop := closer = '>' → inner.getLast? ≠ some '='

instance (inner : Text) (closer : Char) : Decidable (ClosesBehind inner closer) :=
  inferInstanceAs (Decidable (closer = '>' → inner.getLast? ≠ some '='))

/-- A text in which each bracket is closed by one of its kind. -/
inductive Nested : Text → Prop
  | nil : Nested []
  | other {c : Char} {text : Text} (hc : ¬ IsBracket c) (htext : Nested text) : Nested (c :: text)
  | arrow {text : Text} (htext : Nested text) : Nested ('=' :: '>' :: text)
  | group {opener closer : Char} {inner text : Text} (hkind : (opener, closer) ∈ kinds)
      (hinner : Nested inner) (hclose : ClosesBehind inner closer) (htext : Nested text) :
      Nested (opener :: (inner ++ closer :: text))

/-- The byte at which the bracket stands that closes the one at the head of the text. -/
def closeIndex? (text : Text) : Option Nat :=
  (splitAtClose text).map fun (before, _) => before.utf8.length

variable {before c opener closer : Char} {depth : Nat} {inner text : Text}

/-! ## Single characters -/

theorem isOpener_of_kind (h : (opener, closer) ∈ kinds) : isOpener opener = true := by
  simp only [kinds, List.mem_cons, Prod.mk.injEq, List.not_mem_nil, or_false] at h
  rcases h with ⟨rfl, _⟩ | ⟨rfl, _⟩ | ⟨rfl, _⟩ | ⟨rfl, _⟩ <;> rfl

theorem isCloser_of_kind (h : (opener, closer) ∈ kinds) (harrow : closer = '>' → before ≠ '=') :
    isCloser before closer = true := by
  simp only [kinds, List.mem_cons, Prod.mk.injEq, List.not_mem_nil, or_false] at h
  rcases h with ⟨_, rfl⟩ | ⟨_, rfl⟩ | ⟨_, rfl⟩ | ⟨_, rfl⟩
  · rfl
  · simpa [isCloser] using harrow rfl
  · rfl
  · rfl

theorem isOpener_of_not_isBracket (h : ¬ IsBracket c) : isOpener c = false := by
  rw [← Bool.not_eq_true]
  intro hopener
  simp only [isOpener, Bool.or_eq_true, beq_iff_eq] at hopener
  apply h
  rcases hopener with ((rfl | rfl) | rfl) | rfl <;> decide

theorem isCloser_of_not_isBracket (h : ¬ IsBracket c) : isCloser before c = false := by
  rw [← Bool.not_eq_true]
  intro hcloser
  simp only [isCloser, Bool.or_eq_true, Bool.and_eq_true, beq_iff_eq] at hcloser
  apply h
  rcases hcloser with ((rfl | rfl) | rfl) | ⟨rfl, _⟩ <;> decide

/-- Behind a text that ends in no equals sign a closing character closes. -/
theorem isCloser_getLastD (h : (opener, closer) ∈ kinds) (hclose : ClosesBehind inner closer) :
    isCloser (inner.getLastD opener) closer = true := by
  apply isCloser_of_kind h
  intro hangle
  cases hlast : inner.getLast? with
  | none =>
    rw [List.getLastD_eq_getLast?, hlast]
    rintro rfl
    exact absurd (isOpener_of_kind h) (by decide)
  | some last =>
    rw [List.getLastD_eq_getLast?, hlast]
    rintro rfl
    exact hclose hangle hlast

/-! ## Depth -/

/-- A nested text ends at the depth at which it begins, whatever stands before it. -/
theorem Nested.depthFrom? (h : Nested text) (before : Char) (depth : Nat) :
    depthFrom? before depth text = some depth := by
  induction h generalizing before depth with
  | nil => rfl
  | other hc _ ih =>
    have hcloser : isCloser before _ = false := isCloser_of_not_isBracket hc
    rw [depthFrom?_cons (by rw [hcloser, Bool.false_and]), step, isOpener_of_not_isBracket hc,
      hcloser]
    exact ih _ _
  | arrow _ ih => exact ih '>' depth
  | @group opener closer inner text hkind _ hclose _ ihInner ihText =>
    have hopener := isOpener_of_kind hkind
    have hcloser := isCloser_getLastD hkind hclose
    rw [depthFrom?_cons (by rw [isCloser_of_isOpener hopener, Bool.false_and]), step, if_pos hopener,
      depthFrom?_append (ihInner opener (depth + 1)), depthFrom?_cons (by simp), step,
      (isCloser_spec hcloser).1, hcloser]
    exact ihText closer depth

theorem Nested.balanced (h : Nested text) : Balanced text := h.depthFrom? _ 0

/-- Behind a nested text, the bracket of the kind that was opened before it is the one found, at the
byte where it stands, whatever follows. -/
theorem splitAtClose_nested (hkind : (opener, closer) ∈ kinds) (hinner : Nested inner)
    (hclose : ClosesBehind inner closer) (rest : Text) :
    splitAtClose (opener :: (inner ++ closer :: rest)) = some (opener :: inner, rest) ∧
      closeIndex? (opener :: (inner ++ closer :: rest)) =
        some (Text.utf8 (opener :: inner)).length := by
  have hsplit := splitAtClose_bracketed (isOpener_of_kind hkind) hinner.balanced
    (isCloser_getLastD hkind hclose) rest
  constructor
  · exact hsplit
  · rw [closeIndex?, hsplit, Option.map_some]

/-- All four kinds, an arrow and a letter of two bytes, before brackets that nothing opens or closes. -/
theorem splitAtClose_nested_fourKinds :
    Nested "é[\x7b<>\x7d]=>()" ∧ ClosesBehind "é[\x7b<>\x7d]=>()" '>' ∧
      splitAtClose "<é[\x7b<>\x7d]=>()>>(]" = some ("<é[\x7b<>\x7d]=>()".toList, ">(]".toList) ∧
      closeIndex? "<é[\x7b<>\x7d]=>()>>(]" = some 13 := by
  have hangles : Nested ['<', '>'] :=
    @Nested.group '<' '>' [] [] (by decide) .nil (by decide) .nil
  have hbraces : Nested ['{', '<', '>', '}'] :=
    @Nested.group '{' '}' ['<', '>'] [] (by decide) hangles (by decide) .nil
  have hparentheses : Nested ['(', ')'] :=
    @Nested.group '(' ')' [] [] (by decide) .nil (by decide) .nil
  have hinner : Nested "é[\x7b<>\x7d]=>()" :=
    .other (by decide) (@Nested.group '[' ']' ['{', '<', '>', '}'] ['=', '>', '(', ')']
      (by decide) hbraces (by decide) (.arrow hparentheses))
  have hclose : ClosesBehind "é[\x7b<>\x7d]=>()" '>' := by decide
  obtain ⟨hsplit, hindex⟩ :=
    splitAtClose_nested (show ('<', '>') ∈ kinds by decide) hinner hclose ">(]"
  exact ⟨hinner, hclose, hsplit, hindex⟩

end ChangeReview.Nesting
