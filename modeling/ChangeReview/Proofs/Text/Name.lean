import ChangeReview.Proofs.Text.Trimming
import ChangeReview.Text.Identifier

/-!
# Names

`IsAsciiName` describes an identifier of ASCII characters. Such a name is read whole from the head
of a text, up to the first character that is no part of a name, and it holds no blanks and no
punctuation other than the underscore and the dollar sign.
-/

namespace ChangeReview

/-- An ASCII letter or digit, an underscore or a dollar sign. -/
def isAsciiNamePart (c : Char) : Bool := c.isAlphanum || c == '_' || c == '$'

/-- An identifier of ASCII characters. -/
structure IsAsciiName (name : Text) : Prop where
  /-- It begins as identifiers do. -/
  starts : startsIdentifier name = true
  /-- It has ASCII characters only. -/
  parts : ∀ c ∈ name, isAsciiNamePart c = true

instance : DecidablePred IsAsciiName := fun name =>
  decidable_of_iff (startsIdentifier name = true ∧ ∀ c ∈ name, isAsciiNamePart c = true)
    ⟨fun h => ⟨h.1, h.2⟩, fun h => ⟨h.1, h.2⟩⟩

variable {c : Char} {name : Text}

theorem toNat_of_isAsciiNamePart (h : isAsciiNamePart c = true) :
    36 ≤ c.toNat ∧ c.toNat < 0x80 := by
  change (decide (65 ≤ c.val ∧ c.val ≤ 90) || (decide (97 ≤ c.val) && decide (c.val ≤ 122)) ||
    (decide (48 ≤ c.val) && decide (c.val ≤ 57)) || c == '_' || c == '$') = true at h
  simp only [Bool.or_eq_true, Bool.and_eq_true, decide_eq_true_eq, beq_iff_eq,
    UInt32.le_iff_toNat_le] at h
  rcases h with (((h | h) | h) | rfl) | rfl
  · change 65 ≤ c.toNat ∧ c.toNat ≤ 90 at h
    omega
  · change 97 ≤ c.toNat ∧ c.toNat ≤ 122 at h
    omega
  · change 48 ≤ c.toNat ∧ c.toNat ≤ 57 at h
    omega
  · decide
  · decide

theorem isIdentifierPart_of_isAsciiNamePart (h : isAsciiNamePart c = true) :
    isIdentifierPart c = true := by
  rw [isIdentifierPart, isWordChar, if_pos (toNat_of_isAsciiNamePart h).2]
  exact h

theorem isBlank_of_isAsciiNamePart (h : isAsciiNamePart c = true) : isBlank c = false := by
  obtain ⟨hlow, hhigh⟩ := toNat_of_isAsciiNamePart h
  have hspace : c ≠ ' ' := by
    rintro rfl
    cases h
  have hcontrol : ¬ c.toNat ≤ 13 := by omega
  simp [isBlank, hhigh, hspace, hcontrol]

theorem isAsciiNamePart_of_isIdentifierStart (h : isIdentifierStart c = true) :
    isAsciiNamePart c = true := by
  simp only [isIdentifierStart, Bool.or_eq_true, beq_iff_eq] at h
  rcases h with (h | rfl) | rfl
  · simp [isAsciiNamePart, Char.isAlphanum, h]
  · rfl
  · rfl

/-- Trimming stops at an identifier. -/
theorem trimStart_of_startsIdentifier {lead text : Text} (hlead : IsBlankText lead)
    (h : startsIdentifier text = true) : Text.trimStart (lead ++ text) = text := by
  refine Text.trimStart_append hlead fun c hc => ?_
  rw [startsIdentifier, hc, Option.any_some] at h
  exact isBlank_of_isAsciiNamePart (isAsciiNamePart_of_isIdentifierStart h)

theorem startsIdentifier_append {text : Text} (h : startsIdentifier text = true) (rest : Text) :
    startsIdentifier (text ++ rest) = true := by
  cases text with
  | nil => cases h
  | cons c text => exact h

/-- A name is read whole, up to a character that cannot go on with it. -/
theorem takeName_append_of_starts {part : Char → Bool} {name rest : Text}
    (hstarts : startsIdentifier name = true) (hparts : ∀ c ∈ name, part c = true)
    (hrest : ∀ c, rest.head? = some c → part c = false) :
    takeName part (name ++ rest) = some (name, rest) := by
  rw [takeName, if_pos (startsIdentifier_append hstarts rest),
    Text.takeWhile_append_of_head hparts hrest, Text.dropWhile_append_of_head hparts hrest]

theorem takeName_eq_some_iff {part : Char → Bool}
    (hstart : ∀ c, isIdentifierStart c = true → part c = true) {text name rest : Text} :
    takeName part text = some (name, rest) ↔
      text = name ++ rest ∧ startsIdentifier name = true ∧ (∀ c ∈ name, part c = true) ∧
        ∀ c, rest.head? = some c → part c = false := by
  constructor
  · intro h
    rw [takeName] at h
    split at h
    · next hstarts =>
      cases h
      refine ⟨List.takeWhile_append_dropWhile.symm, ?_, List.all_eq_true.mp List.all_takeWhile, ?_⟩
      · cases text with
        | nil => cases hstarts
        | cons c text =>
          have hc : isIdentifierStart c = true := by simpa [startsIdentifier] using hstarts
          rw [List.takeWhile_cons_of_pos (hstart c hc)]
          exact hstarts
      · intro c hc
        have hhead := List.head?_dropWhile_not part text
        rw [hc] at hhead
        simpa using hhead
    · cases h
  · rintro ⟨rfl, hstarts, hparts, hrest⟩
    exact takeName_append_of_starts hstarts hparts hrest

namespace IsAsciiName

theorem ne (h : IsAsciiName name) (hc : c ∈ name) {mark : Char}
    (hmark : isAsciiNamePart mark = false) : c ≠ mark := by
  rintro rfl
  rw [h.parts c hc] at hmark
  cases hmark

theorem notMem (h : IsAsciiName name) {mark : Char} (hmark : isAsciiNamePart mark = false) :
    mark ∉ name := fun hmem => h.ne hmem hmark rfl

theorem ne_nil (h : IsAsciiName name) : name ≠ [] := by
  rintro rfl
  cases h.starts

theorem isTrimmed (h : IsAsciiName name) : IsTrimmed name :=
  isTrimmed_of_forall fun c hc => isBlank_of_isAsciiNamePart (h.parts c hc)

theorem starts_append (h : IsAsciiName name) (rest : Text) :
    startsIdentifier (name ++ rest) = true := startsIdentifier_append h.starts rest

theorem takeName_append {part : Char → Bool} (h : IsAsciiName name)
    (hpart : ∀ c, isAsciiNamePart c = true → part c = true) {rest : Text}
    (hrest : ∀ c, rest.head? = some c → part c = false) :
    takeName part (name ++ rest) = some (name, rest) :=
  takeName_append_of_starts h.starts (fun c hc => hpart c (h.parts c hc)) hrest

theorem takeIdentifier_append (h : IsAsciiName name) {rest : Text}
    (hrest : ∀ c, rest.head? = some c → isIdentifierPart c = false) :
    takeIdentifier (name ++ rest) = some (name, rest) :=
  h.takeName_append (fun _ => isIdentifierPart_of_isAsciiNamePart) hrest

end IsAsciiName

end ChangeReview
