import ChangeReview.Proofs.Nesting.Balance
import ChangeReview.Proofs.Text.Name

/-!
# Identifiers of any script

`IsIdentifier` describes a name by the characters that identifiers go on with. No blank is one of
them, and none of them brackets, quotes, separates or assigns.
-/

namespace ChangeReview

/-- A name of letters, marks and digits of any script, underscores and dollar signs. -/
structure IsIdentifier (name : Text) : Prop where
  ne_nil : name ≠ []
  parts : ∀ c ∈ name, isIdentifierPart c = true

instance : DecidablePred IsIdentifier := fun name =>
  decidable_of_iff (name ≠ [] ∧ ∀ c ∈ name, isIdentifierPart c = true)
    ⟨fun h => ⟨h.1, h.2⟩, fun h => ⟨h.1, h.2⟩⟩

variable {c : Char} {name : Text}

/-- The code points of the blank characters. -/
def blankCodes : List Nat :=
  [0x9, 0xA, 0xB, 0xC, 0xD, 0x20, 0x85, 0xA0, 0x1680, 0x2000, 0x2001, 0x2002, 0x2003, 0x2004,
    0x2005, 0x2006, 0x2007, 0x2008, 0x2009, 0x200A, 0x2028, 0x2029, 0x202F, 0x205F, 0x3000]

theorem toNat_mem_blankCodes (h : isBlank c = true) : c.toNat ∈ blankCodes := by
  rw [isBlank] at h
  split at h
  · simp only [Bool.or_eq_true, beq_iff_eq, Bool.and_eq_true, decide_eq_true_eq] at h
    rcases h with rfl | h
    · decide
    · simp only [blankCodes, List.mem_cons]
      omega
  · simp only [inRanges, isBlank.blankRanges, List.any_cons, List.any_nil, Bool.or_false,
      Bool.or_eq_true, Bool.and_eq_true, decide_eq_true_eq] at h
    simp only [blankCodes, List.mem_cons]
    omega

theorem isBlank_of_isIdentifierPart (h : isIdentifierPart c = true) : isBlank c = false := by
  by_contra hblank
  have hcode := toNat_mem_blankCodes (by simpa using hblank)
  have hnone : ∀ n ∈ blankCodes, isIdentifierPart (Char.ofNat n) = false := by decide +kernel
  rw [← Char.ofNat_toNat c, hnone _ hcode] at h
  cases h

theorem isIdentifierPart_of_isBlank (h : isBlank c = true) : isIdentifierPart c = false := by
  by_contra hpart
  rw [isBlank_of_isIdentifierPart (by simpa using hpart)] at h
  cases h

theorem isInert_of_isIdentifierPart (h : isIdentifierPart c = true) : Nesting.IsInert c := by
  intro hmark
  have hmarks : ∀ mark ∈ Nesting.marks, isIdentifierPart mark = false := by decide
  rw [hmarks c hmark] at h
  cases h

theorem IsAsciiName.isIdentifier (h : IsAsciiName name) : IsIdentifier name :=
  ⟨h.ne_nil, fun c hc => isIdentifierPart_of_isAsciiNamePart (h.parts c hc)⟩

namespace IsIdentifier

theorem ne (h : IsIdentifier name) (hc : c ∈ name) {mark : Char}
    (hmark : isIdentifierPart mark = false) : c ≠ mark := by
  rintro rfl
  rw [h.parts c hc] at hmark
  cases hmark

theorem isTrimmed (h : IsIdentifier name) : IsTrimmed name :=
  isTrimmed_of_forall fun c hc => isBlank_of_isIdentifierPart (h.parts c hc)

end IsIdentifier

end ChangeReview
