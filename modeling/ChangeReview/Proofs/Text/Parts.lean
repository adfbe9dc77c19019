import ChangeReview.Text.Lines
import Mathlib.Data.List.Infix

/-!
# Parts of a text

What cutting and gluing do to a text: a separator that does not occur in a part leaves the part
whole, and two texts with a separator between them are cut apart there.
-/

namespace ChangeReview.Text

/-- What holds of every character of a text is decided along the text, not over all characters. -/
instance (priority := high) decidableForallMem (p : Char → Prop) [DecidablePred p] (text : Text) :
    Decidable (∀ c ∈ text, p c) := List.decidableBAll p text

/-- Likewise for the text or character that may be there. -/
instance (priority := high) decidableForallMemOption {α : Type} (p : α → Prop) [DecidablePred p]
    (value : Option α) : Decidable (∀ a ∈ value, p a) := Option.decidableForallMem value

theorem contains_iff_infix {part text : Text} : contains part text = true ↔ part <:+: text := by
  induction text with
  | nil => simp [contains]
  | cons c rest ih =>
    rw [contains, Bool.or_eq_true, List.isPrefixOf_iff_prefix, ih, List.infix_cons_iff]

theorem contains_eq_false_iff {part text : Text} :
    contains part text = false ↔ ¬ part <:+: text := by
  rw [← contains_iff_infix, Bool.not_eq_true]

/-! ## Reading up to a character -/

theorem takeWhile_append_of_head {keep : Char → Bool} {text rest : Text}
    (h : ∀ c ∈ text, keep c = true) (hrest : ∀ c, rest.head? = some c → keep c = false) :
    (text ++ rest).takeWhile keep = text := by
  rw [List.takeWhile_append_of_pos h]
  cases rest with
  | nil => exact List.append_nil text
  | cons c rest => rw [List.takeWhile_cons_of_neg (by simp [hrest c rfl]), List.append_nil]

theorem dropWhile_append_of_head {keep : Char → Bool} {text rest : Text}
    (h : ∀ c ∈ text, keep c = true) (hrest : ∀ c, rest.head? = some c → keep c = false) :
    (text ++ rest).dropWhile keep = rest := by
  rw [List.dropWhile_append_of_pos h]
  cases rest with
  | nil => rfl
  | cons c rest => exact List.dropWhile_cons_of_neg (by simp [hrest c rfl])

/-! ## Cutting at a separator -/

variable {separator : Char}

theorem splitOnChar_ne_nil (text : Text) : splitOnChar separator text ≠ [] := by
  cases text with
  | nil => simp [splitOnChar]
  | cons c rest =>
    rw [splitOnChar]
    split
    · simp
    · split <;> simp

theorem splitOnChar_separator (rest : Text) :
    splitOnChar separator (separator :: rest) = [] :: splitOnChar separator rest := by
  rw [splitOnChar, if_pos rfl]

theorem splitOnChar_cons_of_ne {c : Char} {text part : Text} {parts : List Text}
    (hne : c ≠ separator) (h : splitOnChar separator text = part :: parts) :
    splitOnChar separator (c :: text) = (c :: part) :: parts := by
  rw [splitOnChar, if_neg hne, h]

theorem splitOnChar_append_separator (a b : Text) :
    splitOnChar separator (a ++ separator :: b) =
      splitOnChar separator a ++ splitOnChar separator b := by
  induction a with
  | nil => simp [splitOnChar]
  | cons c a ih =>
    by_cases hc : c = separator
    · subst hc
      rw [List.cons_append, splitOnChar_separator, splitOnChar_separator, ih, List.cons_append]
    · obtain ⟨part, parts, hparts⟩ := List.exists_cons_of_ne_nil (splitOnChar_ne_nil a)
      rw [hparts, List.cons_append] at ih
      rw [List.cons_append, splitOnChar_cons_of_ne hc ih, splitOnChar_cons_of_ne hc hparts,
        List.cons_append]

theorem splitOnChar_of_notMem {text : Text} (h : separator ∉ text) :
    splitOnChar separator text = [text] := by
  induction text with
  | nil => rfl
  | cons c text ih =>
    rw [List.mem_cons, not_or] at h
    exact splitOnChar_cons_of_ne (Ne.symm h.1) (ih h.2)

theorem splitFirst_append {before : Text} (h : separator ∉ before) (after : Text) :
    splitFirst separator (before ++ separator :: after) = some (before, after) := by
  induction before with
  | nil => rw [List.nil_append, splitFirst, if_pos rfl]
  | cons c before ih =>
    rw [List.mem_cons, not_or] at h
    rw [List.cons_append, splitFirst, if_neg (Ne.symm h.1), ih h.2, Option.map_some]

theorem splitFirst_of_notMem {text : Text} (h : separator ∉ text) :
    splitFirst separator text = none := by
  induction text with
  | nil => rfl
  | cons c text ih =>
    rw [List.mem_cons, not_or] at h
    rw [splitFirst, if_neg (Ne.symm h.1), ih h.2, Option.map_none]

theorem joinWith_cons_cons (glue first second : Text) (parts : List Text) :
    joinWith glue (first :: second :: parts) = first ++ glue ++ joinWith glue (second :: parts) :=
  rfl

theorem exists_joinWith_cons (glue part : Text) (parts : List Text) :
    ∃ rest, joinWith glue (part :: parts) = part ++ rest := by
  cases parts with
  | nil => exact ⟨[], (List.append_nil part).symm⟩
  | cons next parts => exact ⟨_, by rw [joinWith_cons_cons, List.append_assoc]⟩

/-! ## Lines -/

theorem lines_append (a b : Text) : lines (a ++ '\n' :: b) = lines a ++ lines b := by
  rw [lines, splitOnChar_append_separator, List.map_append, lines, lines]

theorem lines_ne_nil (content : Text) : lines content ≠ [] := by
  simpa [lines] using splitOnChar_ne_nil content

end ChangeReview.Text
