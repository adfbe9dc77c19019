import ChangeReview.Proofs.Nesting.Pieces

/-!
# Replacing a part of a text

What the three searches of bracket nesting find does not depend on a balanced part that they pass
over, nor on the text behind the place where they stop. `Nesting.Balanced.replace` says so of the
brackets, `Nesting.commasFrom_flatMap` of the parts before a comma, and
`Nesting.exists_assignmentFrom_eq` of the text before an assignment.
-/

namespace ChangeReview.Nesting

variable {before other c : Char} {depth final : Nat} {quote : Option Char}
variable {text rest : Text}

/-! ## Depth -/

/-- Brackets outside a text, however many, do not change how it nests. -/
theorem depthFrom?_add (h : depthFrom? before depth text = some final) (outside : Nat) :
    depthFrom? before (depth + outside) text = some (final + outside) := by
  induction outside with
  | zero => exact h
  | succ outside ih => exact depthFrom?_succ ih

theorem Balanced.depthFrom?_depth (h : Balanced text) (before : Char) (depth : Nat) :
    Nesting.depthFrom? before depth text = some depth := by
  have hdepth := depthFrom?_add (h.depthFrom? before) depth
  rwa [Nat.zero_add] at hdepth

/-- Only an equals sign before a character can make an arrow of it. -/
theorem isCloser_congr (hbefore : before ≠ '=') (hother : other ≠ '=') :
    isCloser before c = isCloser other c := by
  rw [isCloser, isCloser, bne_iff_ne.mpr hbefore, bne_iff_ne.mpr hother]

theorem depthFrom?_congr (hbefore : before ≠ '=') (hother : other ≠ '=') :
    depthFrom? before depth text = depthFrom? other depth text := by
  cases text with
  | nil => rfl
  | cons c text =>
    have hcloser := @isCloser_congr before other c hbefore hother
    rw [depthFrom?, depthFrom?, hcloser, step_congr hcloser]

theorem exists_depthFrom?_of_append (h : depthFrom? before depth (text ++ rest) = some final) :
    ∃ middle, depthFrom? before depth text = some middle ∧
      depthFrom? (text.getLastD before) middle rest = some final := by
  induction text generalizing before depth with
  | nil => exact ⟨depth, rfl, h⟩
  | cons c text ih =>
    rw [List.cons_append] at h
    have hcloser := not_closer_of_depthFrom? h
    rw [depthFrom?_cons hcloser] at h
    rw [depthFrom?_cons hcloser, List.getLastD_cons]
    exact ih h

/-- One balanced part may take the place of another that ends in the same character. -/
theorem Balanced.replace {front old new back : Text} (h : Balanced (front ++ (old ++ back)))
    (hold : Balanced old) (hnew : Balanced new)
    (hlast : ∀ before, old.getLastD before = new.getLastD before) :
    Balanced (front ++ (new ++ back)) := by
  obtain ⟨depth, hfront, hrest⟩ := exists_depthFrom?_of_append h
  rw [depthFrom?_append (hold.depthFrom?_depth _ _), hlast] at hrest
  rw [Balanced, depthFrom?_append hfront, depthFrom?_append (hnew.depthFrom?_depth _ _), hrest]

/-- A bracket that a text closes without having opened it ends the search in the text. -/
theorem closeFrom_of_depthFrom?_eq_none (h : depthFrom? before depth text = none) :
    ∃ inner closer after, text = inner ++ closer :: after ∧
      ∀ rest, closeFrom before (depth + 1) (text ++ rest) = some (inner, after ++ rest) := by
  induction text generalizing before depth with
  | nil => cases h
  | cons c text ih =>
    cases hcloser : isCloser before c && depth == 0 with
    | true =>
      refine ⟨[], c, text, rfl, fun rest => ?_⟩
      rw [List.cons_append, closeFrom, Nat.add_sub_cancel, hcloser, if_pos rfl]
    | false =>
      rw [depthFrom?_cons hcloser] at h
      obtain ⟨inner, closer, after, rfl, hclose⟩ := ih h
      refine ⟨c :: inner, closer, after, rfl, fun rest => ?_⟩
      rw [List.cons_append, closeFrom, Nat.add_sub_cancel, hcloser, if_neg Bool.false_ne_true,
        step_succ hcloser, hclose, Option.map_some]

/-- No bracket around a balanced text is closed in it. -/
theorem Balanced.closeFrom_eq_none (h : Balanced text) (before : Char) (depth : Nat) :
    closeFrom before (depth + 1) text = none := by
  have hclose := closeFrom_append (h.depthFrom?_depth before depth) []
  rwa [List.append_nil] at hclose

theorem splitAtClose_cons {opener : Char} (hopener : isOpener opener = true) (text : Text) :
    splitAtClose (opener :: text) =
      (closeFrom opener 1 text).map fun (inner, after) => (opener :: inner, after) := by
  rw [splitAtClose, closeFrom, isCloser_of_isOpener hopener, Bool.false_and,
    if_neg Bool.false_ne_true, step, if_pos hopener]

theorem exists_of_closeFrom_eq_some {inner after : Text}
    (h : closeFrom before (depth + 1) text = some (inner, after)) :
    ∃ closer, text = inner ++ closer :: after ∧ depthFrom? before depth inner = some 0 ∧
      isCloser (inner.getLastD before) closer = true := by
  induction text generalizing before depth inner with
  | nil => cases h
  | cons c text ih =>
    rw [closeFrom, Nat.add_sub_cancel] at h
    cases hcloser : isCloser before c && depth == 0 with
    | true =>
      rw [hcloser, if_pos rfl] at h
      cases h
      obtain ⟨hclose, hdepth⟩ := Bool.and_eq_true_iff.mp hcloser
      obtain rfl := eq_of_beq hdepth
      exact ⟨c, rfl, rfl, hclose⟩
    | false =>
      rw [hcloser, if_neg Bool.false_ne_true, step_succ hcloser] at h
      obtain ⟨⟨rest, after⟩, hrest, hcons⟩ := Option.map_eq_some_iff.mp h
      cases hcons
      obtain ⟨closer, rfl, hdepth, hclose⟩ := ih hrest
      refine ⟨closer, rfl, ?_, ?_⟩
      · rw [depthFrom?_cons hcloser, hdepth]
      · rw [List.getLastD_cons]
        exact hclose

/-- What stands between a bracket and the one that closes it is balanced. -/
theorem splitAtClose_eq_some_iff {opener : Char} (hopener : isOpener opener = true)
    {whole after : Text} :
    splitAtClose (opener :: text) = some (whole, after) ↔
      ∃ inner closer, whole = opener :: inner ∧ text = inner ++ closer :: after ∧
        Balanced inner ∧ isCloser (inner.getLastD opener) closer = true := by
  constructor
  · intro h
    rw [splitAtClose_cons hopener] at h
    obtain ⟨⟨inner, after⟩, hclose, hcons⟩ := Option.map_eq_some_iff.mp h
    cases hcons
    obtain ⟨closer, htext, hdepth, hcloser⟩ := exists_of_closeFrom_eq_some hclose
    have hequals : opener ≠ '=' := by
      rintro rfl
      cases hopener
    exact ⟨inner, closer, rfl, htext, (depthFrom?_congr (by decide) hequals).trans hdepth, hcloser⟩
  · rintro ⟨inner, closer, rfl, rfl, hbalanced, hcloser⟩
    exact splitAtClose_bracketed hopener hbalanced hcloser after

/-! ## Commas -/

theorem commasFrom_congr (hbefore : before ≠ '=') (hother : other ≠ '=') :
    commasFrom before depth none text = commasFrom other depth none text := by
  cases text with
  | nil => rfl
  | cons c text =>
    have hcloser := @isCloser_congr before other c hbefore hother
    rw [commasFrom, commasFrom, step_congr hcloser]

theorem consFirst_commasFrom_eq_cons_iff {first : Text} {others : List Text} :
    consFirst c (commasFrom before depth quote text) = first :: others ↔
      ∃ part, first = c :: part ∧ commasFrom before depth quote text = part :: others := by
  obtain ⟨part, parts, hparts⟩ :=
    List.exists_cons_of_ne_nil (commasFrom_ne_nil before depth quote text)
  rw [hparts, consFirst, List.cons.injEq]
  constructor
  · rintro ⟨rfl, rfl⟩
    exact ⟨part, rfl, rfl⟩
  · rintro ⟨part, rfl, h⟩
    cases h
    exact ⟨rfl, rfl⟩

/-- A part that ends before a comma ends there whatever follows the comma. -/
theorem commasFrom_cut {part : Text} {parts : List Text}
    (h : commasFrom before depth quote (part ++ ',' :: rest) = part :: parts) :
    parts = commasFrom ',' 0 none rest ∧
      ∀ rest, commasFrom before depth quote (part ++ ',' :: rest) =
        part :: commasFrom ',' 0 none rest := by
  induction part generalizing before depth quote with
  | nil =>
    cases quote with
    | some quote =>
      rw [List.nil_append, commasFrom, consFirst_commasFrom_eq_cons_iff] at h
      obtain ⟨_, hpart, _⟩ := h
      cases hpart
    | none =>
      have hquote : isQuote ',' = false := rfl
      cases hdepth : depth == 0 with
      | true =>
        have hcut (rest : Text) : commasFrom before depth none (',' :: rest) =
            [] :: commasFrom ',' 0 none rest := by
          rw [commasFrom, hquote, if_neg Bool.false_ne_true, hdepth, eq_of_beq hdepth]
          rfl
        rw [List.nil_append, hcut] at h
        exact ⟨(List.cons.inj h).2.symm, hcut⟩
      | false =>
        rw [List.nil_append, commasFrom, hquote, if_neg Bool.false_ne_true, hdepth,
          Bool.and_false, if_neg Bool.false_ne_true, consFirst_commasFrom_eq_cons_iff] at h
        obtain ⟨_, hpart, _⟩ := h
        cases hpart
  | cons c part ih =>
    -- Whatever the search does with the first character, it stays at the head of the part.
    have hkeep {before depth quote} (h : consFirst c (commasFrom before depth quote
        (part ++ ',' :: rest)) = (c :: part) :: parts) :
        parts = commasFrom ',' 0 none rest ∧
          ∀ rest, consFirst c (commasFrom before depth quote (part ++ ',' :: rest)) =
            (c :: part) :: commasFrom ',' 0 none rest := by
      obtain ⟨_, hpart, hrest⟩ := consFirst_commasFrom_eq_cons_iff.mp h
      cases hpart
      obtain ⟨hparts, hcut⟩ := ih hrest
      refine ⟨hparts, fun rest => ?_⟩
      rw [hcut, consFirst]
    simp only [List.cons_append, commasFrom] at h ⊢
    cases quote with
    | some quote => exact hkeep h
    | none =>
      simp only at h ⊢
      split_ifs at h ⊢
      · exact hkeep h
      · cases h
      · exact hkeep h

/-- Behind parts that each end before a comma the search starts anew. -/
theorem commasFrom_flatMap {left parts : List Text} (hbefore : before ≠ '=')
    (h : commasFrom before 0 none (left.flatMap (· ++ [',']) ++ rest) = left ++ parts) :
    parts = commasFrom '\x00' 0 none rest ∧
      ∀ rest, commasFrom before 0 none (left.flatMap (· ++ [',']) ++ rest) =
        left ++ commasFrom '\x00' 0 none rest := by
  induction left generalizing before with
  | nil => exact ⟨h.symm.trans (commasFrom_congr hbefore (by decide)),
      fun rest => commasFrom_congr hbefore (by decide)⟩
  | cons part left ih =>
    have htext (rest : Text) : (part :: left).flatMap (· ++ [',']) ++ rest =
        part ++ ',' :: (left.flatMap (· ++ [',']) ++ rest) := by simp
    rw [htext, List.cons_append] at h
    obtain ⟨hparts, hcut⟩ := commasFrom_cut h
    obtain ⟨hlast, hleft⟩ := ih (show ',' ≠ '=' by decide) hparts.symm
    refine ⟨hlast, fun rest => ?_⟩
    rw [htext, hcut, hleft, List.cons_append]

/-! ## Assignments -/

/-- Fewer open brackets before a character, fewer behind it. -/
theorem step_le_step {low : Nat} (hother : other = before ∨ other = '\x00') (h : low ≤ depth) :
    step other c low ≤ step before c depth := by
  have hcloser : isCloser before c = true → isCloser other c = true := by
    rcases hother with rfl | rfl
    · exact id
    · simp only [isCloser, Bool.or_eq_true, Bool.and_eq_true]
      exact Or.imp_right fun hangle => ⟨hangle.1, rfl⟩
  rw [step, step]
  split_ifs with hopener hlow hdepth hdepth
  · exact Nat.add_le_add_right h 1
  · exact Nat.sub_le_sub_right h 1
  · exact (Nat.sub_le ..).trans h
  · exact absurd (hcloser hdepth) hlow
  · exact h

theorem isAssignment_append_equals (before : Char) (text next : Text) :
    isAssignment before (text ++ '=' :: next) = isAssignment before (text ++ '=' :: rest) := by
  cases text <;> rfl

theorem isAssignment_of_head {next : Text} (hother : other = before ∨ other = '\x00')
    (h : isAssignment before rest = true) (hhead : next.head? = rest.head?) :
    isAssignment other next = true := by
  rw [isAssignment, headIs, headIs, hhead]
  rw [isAssignment, headIs, headIs, Bool.and_eq_true] at h
  rcases hother with rfl | rfl
  · exact Bool.and_eq_true_iff.mpr h
  · exact h.2

theorem exists_assignmentFrom_of_append {front left right : Text}
    (h : assignmentFrom before depth (front ++ text) = some (front ++ left, right)) :
    ∃ before depth, assignmentFrom before depth text = some (left, right) := by
  induction front generalizing before depth with
  | nil => exact ⟨before, depth, h⟩
  | cons c front ih =>
    rw [List.cons_append, assignmentFrom] at h
    split at h
    · cases h
    · obtain ⟨⟨inner, after⟩, hrest, hcons⟩ := Option.map_eq_some_iff.mp h
      cases hcons
      exact ih hrest

/-- A search that begins at the head of a text, and so knows of fewer brackets around it, stops
no later, and where it stops does not depend on what is assigned. -/
theorem exists_assignmentFrom_eq {low : Nat}
    (h : assignmentFrom before depth (text ++ '=' :: rest) = some (text, rest))
    (hother : other = before ∨ other = '\x00') (hlow : low ≤ depth) :
    ∃ left, ∀ next, next.head? = rest.head? →
      ∃ right, assignmentFrom other low (text ++ '=' :: next) = some (left, right) := by
  -- The lower search passes the same characters at no greater depth, so it stops at this equals
  -- sign, if it has not stopped before.
  induction text generalizing before depth other low with
  | nil =>
    rw [List.nil_append, assignmentFrom] at h
    split at h
    · next hassigns =>
      simp only [Bool.and_eq_true, beq_iff_eq] at hassigns
      obtain ⟨⟨-, rfl⟩, hassigns⟩ := hassigns
      obtain rfl := Nat.le_zero.mp hlow
      refine ⟨[], fun next hhead => ⟨next, ?_⟩⟩
      rw [List.nil_append, assignmentFrom, isAssignment_of_head hother hassigns hhead]
      rfl
    · obtain ⟨_, _, hcons⟩ := Option.map_eq_some_iff.mp h
      cases hcons
  | cons c text ih =>
    rw [List.cons_append, assignmentFrom] at h
    split at h
    · cases h
    · obtain ⟨⟨inner, after⟩, hrest, hcons⟩ := Option.map_eq_some_iff.mp h
      cases hcons
      obtain ⟨left, hleft⟩ := ih hrest (.inl rfl) (step_le_step (c := c) hother hlow)
      by_cases hassigns : c == '=' && low == 0 && isAssignment other (text ++ '=' :: rest)
      · refine ⟨[], fun next _ => ⟨text ++ '=' :: next, ?_⟩⟩
        rw [List.cons_append, assignmentFrom, isAssignment_append_equals other text next,
          if_pos hassigns]
      · refine ⟨c :: left, fun next hhead => ?_⟩
        obtain ⟨right, hright⟩ := hleft next hhead
        refine ⟨right, ?_⟩
        rw [List.cons_append, assignmentFrom, isAssignment_append_equals other text next,
          if_neg hassigns, hright, Option.map_some]

end ChangeReview.Nesting
