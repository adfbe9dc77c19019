import ChangeReview.Nesting
import ChangeReview.Proofs.Text.Parts
import Mathlib.Data.List.Basic

/-!
# Balanced text

`Nesting.Balanced` describes a text that closes exactly the brackets it opens. The three searches of
bracket nesting pass over such a text: the search for a closing bracket goes on behind it at the
same depth, and the searches for commas and assignments see its top level only, which
`Nesting.topLevel` lists.
-/

namespace ChangeReview.Nesting

/-- The depth after the text, none if it closes a bracket that it did not open. -/
def depthFrom? (before : Char) (depth : Nat) : Text → Option Nat
  | [] => some depth
  | c :: rest =>
    if isCloser before c && depth == 0 then none else depthFrom? c (step before c depth) rest

/-- A text that closes the brackets it opens and no others. -/
def Balanced (text : Text) : Prop := depthFrom? '\x00' 0 text = some 0

instance : DecidablePred Balanced := fun text =>
  inferInstanceAs (Decidable (depthFrom? '\x00' 0 text = some 0))

/-- The characters at depth zero from here on, each with the text after it. -/
def topLevelFrom (before : Char) (depth : Nat) : Text → List (Char × Text)
  | [] => []
  | c :: rest =>
    (if depth = 0 then [(c, rest)] else []) ++ topLevelFrom c (step before c depth) rest

/-- The characters outside brackets, each with the text after it. -/
def topLevel (text : Text) : List (Char × Text) := topLevelFrom '\x00' 0 text

/-- A text that the search for commas takes for one part. -/
structure IsPart (text : Text) : Prop where
  /-- No bracket reaches beyond the text. -/
  balanced : Balanced text
  /-- No string literal opens. -/
  no_quote : ∀ c ∈ text, isQuote c = false
  /-- Every comma stands in brackets. -/
  no_comma : ∀ entry ∈ topLevel text, entry.1 ≠ ','

instance : DecidablePred IsPart := fun text =>
  decidable_of_iff (Balanced text ∧ (∀ c ∈ text, isQuote c = false) ∧
      ∀ entry ∈ topLevel text, entry.1 ≠ ',')
    ⟨fun ⟨h, hquote, hcomma⟩ => ⟨h, hquote, hcomma⟩, fun h => ⟨h.1, h.2, h.3⟩⟩

/-- The characters that bracket, quote, separate or assign. -/
def marks : Text :=
  ['(', ')', '<', '>', '{', '}', '[', ']', ',', '=', '\x27', '\x22', '\x60']

/-- A character that none of the searches stops at. -/
def IsInert (c : Char) : Prop := c ∉ marks

instance : DecidablePred IsInert := fun c => inferInstanceAs (Decidable (c ∉ marks))

variable {before other c : Char} {depth final : Nat} {text : Text}

/-! ## Single characters -/

theorem IsInert.ne (h : IsInert c) {mark : Char} (hmark : mark ∈ marks) : c ≠ mark := by
  rintro rfl
  exact h hmark

theorem isOpener_of_isInert (h : IsInert c) : isOpener c = false := by
  simp [isOpener, h.ne (show '(' ∈ marks by decide), h.ne (show '<' ∈ marks by decide),
    h.ne (show '{' ∈ marks by decide), h.ne (show '[' ∈ marks by decide)]

theorem isCloser_of_isInert (h : IsInert c) : isCloser before c = false := by
  simp [isCloser, h.ne (show ')' ∈ marks by decide), h.ne (show '>' ∈ marks by decide),
    h.ne (show '}' ∈ marks by decide), h.ne (show ']' ∈ marks by decide)]

theorem isQuote_of_isInert (h : IsInert c) : isQuote c = false := by
  simp [isQuote, h.ne (show '\x27' ∈ marks by decide), h.ne (show '\x22' ∈ marks by decide),
    h.ne (show '\x60' ∈ marks by decide)]

theorem isQuote_cases (h : isQuote c = true) : c = '\x27' ∨ c = '\x22' ∨ c = '\x60' := by
  simpa [isQuote, or_assoc] using h

theorem step_of_isInert (h : IsInert c) : step before c depth = depth := by
  simp [step, isOpener_of_isInert h, isCloser_of_isInert h]

/-- What stands before a character matters only if it makes an arrow of it. -/
theorem isCloser_of_ne (hc : c ≠ '>') : isCloser before c = isCloser other c := by
  rw [isCloser, isCloser, beq_eq_false_iff_ne.mpr hc, Bool.false_and, Bool.false_and]

theorem step_congr (h : isCloser before c = isCloser other c) :
    step before c depth = step other c depth := by
  rw [step, step, h]

/-- Brackets outside a text do not change what it does to the depth inside them. -/
theorem step_succ (h : (isCloser before c && depth == 0) = false) :
    step before c (depth + 1) = step before c depth + 1 := by
  unfold step
  split_ifs with hopener hcloser
  · rfl
  · have hdepth : depth ≠ 0 := by simpa [hcloser] using h
    omega
  · rfl

/-! ## Depth -/

theorem depthFrom?_cons (h : (isCloser before c && depth == 0) = false) :
    depthFrom? before depth (c :: text) = depthFrom? c (step before c depth) text := by
  rw [depthFrom?, h, if_neg Bool.false_ne_true]

theorem not_closer_of_depthFrom? (h : depthFrom? before depth (c :: text) = some final) :
    (isCloser before c && depth == 0) = false := by
  rw [depthFrom?] at h
  split at h
  · cases h
  · next hcloser => exact Bool.eq_false_iff.mpr hcloser

theorem depthFrom?_append (h : depthFrom? before depth text = some final) (rest : Text) :
    depthFrom? before depth (text ++ rest) = depthFrom? (text.getLastD before) final rest := by
  induction text generalizing before depth with
  | nil =>
    rw [depthFrom?, Option.some.injEq] at h
    rw [h]
    rfl
  | cons c text ih =>
    have hcloser := not_closer_of_depthFrom? h
    rw [depthFrom?_cons hcloser] at h
    rw [List.cons_append, depthFrom?_cons hcloser, ih h, List.getLastD_cons]

theorem depthFrom?_of_isInert (h : ∀ c ∈ text, IsInert c) :
    depthFrom? before depth text = some depth := by
  induction text generalizing before with
  | nil => rfl
  | cons c text ih =>
    have hc := h c List.mem_cons_self
    rw [depthFrom?_cons (by rw [isCloser_of_isInert hc, Bool.false_and]), step_of_isInert hc,
      ih fun x hx => h x (List.mem_cons_of_mem _ hx)]

/-- A balanced text begins with no `>`, which would close a bracket that is not open. -/
theorem Balanced.isCloser_head (h : Balanced (c :: text)) (before : Char) :
    isCloser before c = isCloser '\x00' c := by
  apply isCloser_of_ne
  rintro rfl
  exact Bool.noConfusion (not_closer_of_depthFrom? h)

theorem Balanced.depthFrom? (h : Balanced text) (before : Char) :
    depthFrom? before 0 text = some 0 := by
  cases text with
  | nil => rfl
  | cons c text =>
    rw [Nesting.depthFrom?, step_congr (h.isCloser_head before), h.isCloser_head]
    exact h

theorem Balanced.append (h : Balanced text) {rest : Text} (hrest : Balanced rest) :
    Balanced (text ++ rest) := by
  rw [Balanced, depthFrom?_append h, hrest.depthFrom?]

/-- A bracket around a text does not change how the text nests. -/
theorem depthFrom?_succ (h : depthFrom? before depth text = some final) :
    depthFrom? before (depth + 1) text = some (final + 1) := by
  induction text generalizing before depth with
  | nil => simpa [depthFrom?] using h
  | cons c text ih =>
    have hcloser := not_closer_of_depthFrom? h
    rw [depthFrom?_cons hcloser] at h
    rw [depthFrom?_cons (by simp), step_succ hcloser, ih h]

theorem balanced_of_isInert (h : ∀ c ∈ text, IsInert c) : Balanced text := depthFrom?_of_isInert h

/-! ## The closing bracket -/

theorem closeFrom_append (h : depthFrom? before depth text = some final) (rest : Text) :
    closeFrom before (depth + 1) (text ++ rest) =
      (closeFrom (text.getLastD before) (final + 1) rest).map fun (inner, after) =>
        (text ++ inner, after) := by
  induction text generalizing before depth with
  | nil =>
    rw [depthFrom?, Option.some.injEq] at h
    subst h
    rw [List.nil_append, List.getLastD_nil]
    cases closeFrom before (depth + 1) rest <;> rfl
  | cons c text ih =>
    have hcloser := not_closer_of_depthFrom? h
    rw [depthFrom?_cons hcloser] at h
    -- What closes in the text was opened in it, so the bracket around the text stays open.
    rw [List.cons_append, closeFrom, Nat.add_sub_cancel, hcloser, if_neg Bool.false_ne_true,
      step_succ hcloser, ih h, Option.map_map, List.getLastD_cons]
    rfl

theorem isCloser_of_isOpener (h : isOpener c = true) : isCloser before c = false := by
  simp only [isOpener, Bool.or_eq_true, beq_iff_eq] at h
  rcases h with ((rfl | rfl) | rfl) | rfl <;> rfl

theorem mem_marks_of_isCloser (h : isCloser before c = true) : c ∈ marks := by
  simp only [isCloser, Bool.or_eq_true, Bool.and_eq_true, beq_iff_eq] at h
  rcases h with ((rfl | rfl) | rfl) | ⟨rfl, _⟩ <;> decide

theorem isCloser_spec (h : isCloser before c = true) : isOpener c = false ∧ isQuote c = false := by
  simp only [isCloser, Bool.or_eq_true, Bool.and_eq_true, beq_iff_eq] at h
  rcases h with ((rfl | rfl) | rfl) | ⟨rfl, _⟩ <;> exact ⟨rfl, rfl⟩

/-- The bracket after a balanced text closes the one before it, of whatever kind the two are. -/
theorem splitAtClose_bracketed {opener closer : Char} (hopener : isOpener opener = true)
    (h : Balanced text) (hcloser : isCloser (text.getLastD opener) closer = true) (rest : Text) :
    splitAtClose (opener :: (text ++ closer :: rest)) = some (opener :: text, rest) := by
  rw [splitAtClose, closeFrom, isCloser_of_isOpener hopener, Bool.false_and,
    if_neg Bool.false_ne_true, step, if_pos hopener, closeFrom_append (h.depthFrom? opener),
    closeFrom, hcloser]
  simp

theorem splitAtClose_enclosed {opener closer : Char}
    (hbrackets : (opener, closer) ∈ [('(', ')'), ('{', '}'), ('[', ']')]) (h : Balanced text)
    (rest : Text) :
    splitAtClose (opener :: (text ++ closer :: rest)) = some (opener :: text, rest) := by
  have hkinds : isOpener opener = true ∧ ∀ before, isCloser before closer = true := by
    simp only [List.mem_cons, Prod.mk.injEq, List.not_mem_nil, or_false] at hbrackets
    rcases hbrackets with ⟨rfl, rfl⟩ | ⟨rfl, rfl⟩ | ⟨rfl, rfl⟩ <;> exact ⟨rfl, fun _ => rfl⟩
  exact splitAtClose_bracketed hkinds.1 h (hkinds.2 _) rest

/-! ## The top level -/

theorem Balanced.topLevelFrom (h : Balanced text) (before : Char) :
    topLevelFrom before 0 text = topLevel text := by
  cases text with
  | nil => rfl
  | cons c text => rw [topLevel, Nesting.topLevelFrom, Nesting.topLevelFrom,
      step_congr (h.isCloser_head before)]

/-- Inside a bracket nothing stands on the top level. -/
theorem topLevelFrom_succ (h : depthFrom? before depth text = some final) (rest : Text) :
    topLevelFrom before (depth + 1) (text ++ rest) =
      topLevelFrom (text.getLastD before) (final + 1) rest := by
  induction text generalizing before depth with
  | nil =>
    rw [depthFrom?, Option.some.injEq] at h
    rw [h]
    rfl
  | cons c text ih =>
    have hcloser := not_closer_of_depthFrom? h
    rw [depthFrom?_cons hcloser] at h
    rw [List.cons_append, Nesting.topLevelFrom, step_succ hcloser, ih h, List.getLastD_cons]
    simp

/-- The top level of two texts is that of the first and then that of the second. -/
theorem map_topLevelFrom_append (h : depthFrom? before depth text = some final) (rest : Text) :
    (topLevelFrom before depth (text ++ rest)).map Prod.fst =
      (topLevelFrom before depth text).map Prod.fst ++
        (topLevelFrom (text.getLastD before) final rest).map Prod.fst := by
  induction text generalizing before depth with
  | nil =>
    rw [depthFrom?, Option.some.injEq] at h
    rw [h]
    rfl
  | cons c text ih =>
    rw [depthFrom?_cons (not_closer_of_depthFrom? h)] at h
    rw [List.cons_append, Nesting.topLevelFrom, Nesting.topLevelFrom, List.map_append,
      List.map_append, ih h, List.getLastD_cons, List.append_assoc]
    split <;> rfl

theorem IsPart.append (h : IsPart text) {rest : Text} (hrest : IsPart rest) :
    IsPart (text ++ rest) where
  balanced := h.balanced.append hrest.balanced
  no_quote := List.forall_mem_append.mpr ⟨h.no_quote, hrest.no_quote⟩
  no_comma := by
    have hfirst : ∀ c ∈ (topLevel (text ++ rest)).map Prod.fst, c ≠ ',' := by
      rw [topLevel, map_topLevelFrom_append h.balanced, hrest.balanced.topLevelFrom]
      exact List.forall_mem_append.mpr
        ⟨List.forall_mem_map.mpr h.no_comma, List.forall_mem_map.mpr hrest.no_comma⟩
    exact fun entry hentry => hfirst _ (List.mem_map_of_mem hentry)

theorem mem_of_mem_topLevelFrom {entry : Char × Text}
    (h : entry ∈ topLevelFrom before depth text) : entry.1 ∈ text := by
  induction text generalizing before depth with
  | nil => cases h
  | cons c text ih =>
    rw [Nesting.topLevelFrom, List.mem_append] at h
    rcases h with h | h
    · split at h
      · rw [List.mem_singleton.mp h]
        exact List.mem_cons_self
      · cases h
    · exact List.mem_cons_of_mem _ (ih h)

theorem isPart_of_isInert (h : ∀ c ∈ text, IsInert c) : IsPart text where
  balanced := balanced_of_isInert h
  no_quote c hc := isQuote_of_isInert (h c hc)
  no_comma entry hentry := (h _ (mem_of_mem_topLevelFrom hentry)).ne (by decide)

/-- The search for commas takes a text without quotes and top-level commas into one part. -/
theorem commasFrom_append (h : depthFrom? before depth text = some final)
    (hquotes : ∀ c ∈ text, isQuote c = false)
    (hcommas : ∀ entry ∈ topLevelFrom before depth text, entry.1 ≠ ',') (rest : Text) :
    commasFrom before depth none (text ++ rest) =
      text.foldr consFirst (commasFrom (text.getLastD before) final none rest) := by
  induction text generalizing before depth with
  | nil =>
    rw [depthFrom?, Option.some.injEq] at h
    subst h
    rfl
  | cons c text ih =>
    rw [depthFrom?_cons (not_closer_of_depthFrom? h)] at h
    rw [topLevelFrom, List.forall_mem_append] at hcommas
    -- A comma at depth zero would be listed on the top level.
    have hcomma : (c == ',' && depth == 0) = false := by
      by_cases hdepth : depth = 0
      · have hne : c ≠ ',' := by simpa [hdepth] using hcommas.1
        simp [hne]
      · simp [hdepth]
    rw [List.cons_append, commasFrom, hquotes c List.mem_cons_self, hcomma,
      if_neg Bool.false_ne_true, if_neg Bool.false_ne_true,
      ih h (fun x hx => hquotes x (List.mem_cons_of_mem _ hx)) hcommas.2, List.foldr_cons,
      List.getLastD_cons]

theorem IsPart.commasFrom_append (h : IsPart text) (before : Char) (rest : Text) :
    commasFrom before 0 none (text ++ rest) =
      text.foldr consFirst (commasFrom (text.getLastD before) 0 none rest) := by
  refine Nesting.commasFrom_append (h.balanced.depthFrom? before) h.no_quote ?_ rest
  rw [h.balanced.topLevelFrom]
  exact h.no_comma

theorem balanced_joinWith {parts : List Text} (h : ∀ part ∈ parts, Balanced part) :
    Balanced (Text.joinWith [',', ' '] parts) := by
  induction parts with
  | nil => rfl
  | cons part parts ih =>
    cases parts with
    | nil => exact h part List.mem_cons_self
    | cons next parts =>
      have hrest := ih fun p hp => h p (List.mem_cons_of_mem _ hp)
      have hseparated : Balanced (',' :: ' ' :: Text.joinWith [',', ' '] (next :: parts)) :=
        hrest.depthFrom? ' '
      rw [Text.joinWith_cons_cons, List.append_assoc]
      exact (h part List.mem_cons_self).append hseparated

/-- No `=` of the top level assigns if each draws an arrow. -/
theorem assignmentFrom_eq_none
    (h : ∀ entry ∈ topLevelFrom before depth text, entry.1 = '=' → headIs '>' entry.2 = true) :
    assignmentFrom before depth text = none := by
  induction text generalizing before depth with
  | nil => rfl
  | cons c text ih =>
    rw [topLevelFrom, List.forall_mem_append] at h
    have hassigns : (c == '=' && depth == 0 && isAssignment before text) = false := by
      by_cases hc : c = '=' ∧ depth = 0
      · have harrow : headIs '>' text = true := by simpa [hc.1, hc.2] using h.1
        simp [isAssignment, harrow]
      · rw [Bool.and_eq_false_iff]
        left
        simpa [and_comm] using hc
    rw [assignmentFrom, hassigns, if_neg Bool.false_ne_true, ih h.2, Option.map_none]

/-- The search for an assignment passes over inert text. -/
theorem assignmentFrom_append_of_isInert (h : ∀ c ∈ text, IsInert c) (rest : Text) :
    assignmentFrom before depth (text ++ rest) =
      (assignmentFrom (text.getLastD before) depth rest).map fun (left, right) =>
        (text ++ left, right) := by
  induction text generalizing before with
  | nil =>
    rw [List.nil_append, List.getLastD_nil]
    cases assignmentFrom before depth rest <;> rfl
  | cons c text ih =>
    have hc := h c List.mem_cons_self
    have hassigns : (c == '=' && depth == 0 && isAssignment before (text ++ rest)) = false := by
      simp [hc.ne (show '=' ∈ marks by decide)]
    rw [List.cons_append, assignmentFrom, hassigns, if_neg Bool.false_ne_true, step_of_isInert hc,
      ih fun x hx => h x (List.mem_cons_of_mem _ hx), Option.map_map, List.getLastD_cons]
    rfl

/-- Behind a text that assigns nothing, the first `=` between blanks assigns. -/
theorem assignmentFrom_append (h : depthFrom? before depth text = some 0)
    (harrows : ∀ entry ∈ topLevelFrom before depth text,
      entry.1 = '=' → headIs '>' entry.2 = true) (value : Text) :
    assignmentFrom before depth (text ++ ([' ', '=', ' '] ++ value)) =
      some (text ++ [' '], ' ' :: value) := by
  induction text generalizing before depth with
  | nil =>
    rw [depthFrom?, Option.some.injEq] at h
    subst h
    rfl
  | cons c text ih =>
    rw [depthFrom?_cons (not_closer_of_depthFrom? h)] at h
    rw [topLevelFrom, List.forall_mem_append] at harrows
    have hassigns : (c == '=' && depth == 0 &&
        isAssignment before (text ++ ([' ', '=', ' '] ++ value))) = false := by
      by_cases hc : c = '=' ∧ depth = 0
      · obtain ⟨rest, hrest⟩ : ∃ rest, text = '>' :: rest := by
          have harrow : headIs '>' text = true := by simpa [hc.1, hc.2] using harrows.1
          exact List.head?_eq_some_iff.mp (eq_of_beq harrow)
        simp [isAssignment, headIs, hrest]
      · rw [Bool.and_eq_false_iff]
        left
        simpa [and_comm] using hc
    rw [List.cons_append, assignmentFrom, hassigns, if_neg Bool.false_ne_true, ih h harrows.2,
      Option.map_some, List.cons_append]

/-- Cutting a text off before an inert character makes no assignment of an `=` in it. -/
theorem assignmentFrom_of_append {rest : Text} (hrest : ∀ c, rest.head? = some c → IsInert c)
    (h : assignmentFrom before depth (text ++ rest) = none) :
    assignmentFrom before depth text = none := by
  induction text generalizing before depth with
  | nil => rfl
  | cons c text ih =>
    rw [List.cons_append, assignmentFrom] at h
    split at h
    · cases h
    · next hassigns =>
      -- Only an `=` at the very end of the text has a new neighbour, the head of the rest.
      have hafter : isAssignment before (text ++ rest) = isAssignment before text := by
        cases text with
        | cons d text => rfl
        | nil =>
          cases rest with
          | nil => rfl
          | cons d rest =>
            have hd := hrest d rfl
            simp [isAssignment, headIs, hd.ne (show '>' ∈ marks by decide),
              hd.ne (show '=' ∈ marks by decide)]
      rw [hafter] at hassigns
      rw [assignmentFrom, if_neg hassigns, ih (Option.map_eq_none_iff.mp h), Option.map_none]

end ChangeReview.Nesting
