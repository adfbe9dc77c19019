import ChangeReview.Proofs.Change.Announced
import ChangeReview.Proofs.Config.Validity
import ChangeReview.Proofs.Scan.Findings

/-!
# Window sums

The end of a range and the end of the window behind it are sums of numbers that a diff and a
configuration give. A sum that comes up to the bound of machine words starts again at zero, so that
a range may be inverted and a window may end before its range. `ChangedLines.forall_isSound_iff`
says that this happens as soon as an exact sum comes up to the bound, and that no check of the
configuration sees to it.
-/

namespace ChangeReview

/-- A range that is not inverted, with a window that holds it and the windows of smaller margins. -/
structure LineRange.IsSound (range : LineRange) (margin : Nat) : Prop where
  ordered : range.first ≤ range.last
  near_of_contains : ∀ line, range.contains line = true → range.isNear line margin = true
  near_of_near : ∀ less ≤ margin, ∀ line,
    range.isNear line less = true → range.isNear line margin = true

/-- The configuration with another window for documentation. -/
def Config.withWindow (config : Config) (window : Nat) : Config :=
  { config with documentation := { config.documentation with nearWindow := window } }

theorem wrap_lt (number : Nat) : wrap number < numberBound := Nat.mod_lt _ (by decide)

/-- The sum of two machine words that comes up to the bound is smaller than either. -/
theorem wrap_add_lt {a b : Nat} (ha : a < numberBound) (hb : b < numberBound)
    (h : numberBound ≤ a + b) : wrap (a + b) < a := by
  rw [wrap, Nat.mod_eq_sub_mod h, Nat.mod_eq_of_lt (by omega)]
  omega

namespace LineRange

variable {range : LineRange} {line margin : Nat}

theorem contains_iff : range.contains line = true ↔ range.first ≤ line ∧ line ≤ range.last := by
  simp [contains]

theorem isNear_iff : range.isNear line margin = true ↔
    range.first ≤ line ∧ line ≤ wrap (range.last + margin) := by
  simp [isNear]

/-- The window behind a range is sound exactly if the range is and the window stays in bounds. -/
theorem isSound_iff (hlast : range.last < numberBound) (hmargin : margin < numberBound) :
    range.IsSound margin ↔
      range.first ≤ range.last ∧ range.last + margin < numberBound := by
  constructor
  · intro h
    refine ⟨h.ordered, ?_⟩
    by_contra hsum
    -- The window ends before the last line of the range.
    have hlastLine := h.near_of_contains range.last (contains_iff.mpr ⟨h.ordered, Nat.le_refl _⟩)
    have hend := wrap_add_lt hlast hmargin (Nat.le_of_not_lt hsum)
    exact absurd (isNear_iff.mp hlastLine).2 (Nat.not_le.mpr hend)
  · rintro ⟨hordered, hsum⟩
    refine ⟨hordered, fun line h => ?_, fun less hless line h => ?_⟩
    · obtain ⟨hfirst, hend⟩ := contains_iff.mp h
      rw [isNear_iff, wrap_of_lt hsum]
      exact ⟨hfirst, by omega⟩
    · obtain ⟨hfirst, hend⟩ := isNear_iff.mp h
      rw [wrap_of_lt (by omega)] at hend
      rw [isNear_iff, wrap_of_lt hsum]
      exact ⟨hfirst, by omega⟩

end LineRange

namespace NewSide

variable {side : NewSide} {diff : Text} {margin : Nat}

/-- The window behind the lines of a header is sound exactly if its exact end is in bounds. -/
theorem isSound_iff (h : side ∈ announcing diff) (hmargin : margin < numberBound) :
    LineRange.IsSound ⟨side.start, wrap (side.start + side.count - 1)⟩ margin ↔
      side.start + side.count - 1 + margin < numberBound := by
  obtain ⟨⟨hstart, hstartBound⟩, hcount, hcountBound⟩ := bounds_of_mem_announcing h
  rw [LineRange.isSound_iff (wrap_lt _) hmargin]
  dsimp only
  constructor
  · rintro ⟨hordered, hsum⟩
    -- An end that has wrapped around lies before the start.
    by_cases hlast : side.start + side.count - 1 < numberBound
    · rwa [wrap_of_lt hlast] at hsum
    · have hend := @wrap_add_lt side.start (side.count - 1) hstartBound (by omega) (by omega)
      rw [Nat.add_sub_assoc hcount] at hordered
      exact absurd hordered (Nat.not_le.mpr hend)
  · intro hsum
    rw [wrap_of_lt (by omega)]
    exact ⟨by omega, hsum⟩

end NewSide

namespace ChangedLines

variable {diff : Text} {line margin : Nat}

/-- If no end of a range comes up to the bound, the changed lines are the announced ones. -/
theorem contains_ofDiff_iff
    (hbound : ∀ side ∈ NewSide.announcing diff, side.start + side.count - 1 < numberBound) :
    (ofDiff diff).contains line = true ↔
      ∃ side ∈ NewSide.announcing diff, side.Announces line := by
  rw [contains_eq_true_iff, ranges_ofDiff]
  simp only [List.mem_map, exists_exists_and_eq_and]
  refine exists_congr fun side => and_congr_right fun hside => ?_
  obtain ⟨⟨hstart, _⟩, hcount, _⟩ := NewSide.bounds_of_mem_announcing hside
  rw [wrap_of_lt (hbound side hside), NewSide.Announces]
  omega

theorem fits_ofDiff
    (hbound : ∀ side ∈ NewSide.announcing diff,
      side.start + side.count - 1 + margin < numberBound) :
    (ofDiff diff).Fits margin := by
  rw [Fits, ranges_ofDiff, List.forall_mem_map]
  intro side hside
  have hsum := hbound side hside
  rwa [wrap_of_lt (by omega)]

/-- If no end of a window comes up to the bound, the windows begin with the announced lines and go
on for the margin. -/
theorem isNear_ofDiff_iff
    (hbound : ∀ side ∈ NewSide.announcing diff,
      side.start + side.count - 1 + margin < numberBound) :
    (ofDiff diff).isNear line margin = true ↔
      ∃ side ∈ NewSide.announcing diff,
        side.start ≤ line ∧ line ≤ side.start + side.count - 1 + margin := by
  rw [(fits_ofDiff hbound).isNear_eq_true_iff, ranges_ofDiff]
  simp only [List.mem_map, exists_exists_and_eq_and]
  refine exists_congr fun side => and_congr_right fun hside => ?_
  have hsum := hbound side hside
  rw [wrap_of_lt (by omega)]

/-- The windows behind the ranges of a diff are sound exactly if no exact end of them comes up to
the bound of machine words, and then they hold the lines that the headers announce. The check of a
configuration does not see to it. -/
theorem forall_isSound_iff (diff : Text) {window : Nat} (hwindow : window < numberBound) :
    ((∀ range ∈ (ofDiff diff).ranges, range.IsSound window) ↔
      ∀ side ∈ NewSide.announcing diff,
        side.start + side.count - 1 + window < numberBound) ∧
    ((∀ range ∈ (ofDiff diff).ranges, range.IsSound window) →
      (∀ line, (ofDiff diff).contains line = true ↔
        ∃ side ∈ NewSide.announcing diff, side.Announces line) ∧
      ∀ line, ∀ margin ≤ window, (ofDiff diff).isNear line margin = true ↔
        ∃ side ∈ NewSide.announcing diff,
          side.start ≤ line ∧ line ≤ side.start + side.count - 1 + margin) ∧
    ∀ config : Config, (config.withWindow window).validate = config.validate := by
  have hsound : (∀ range ∈ (ofDiff diff).ranges, range.IsSound window) ↔
      ∀ side ∈ NewSide.announcing diff,
        side.start + side.count - 1 + window < numberBound := by
    rw [ranges_ofDiff, List.forall_mem_map]
    exact forall₂_congr fun side hside => NewSide.isSound_iff hside hwindow
  refine ⟨hsound, fun h => ?_, fun _ => rfl⟩
  have hbound := hsound.mp h
  constructor
  · intro line
    refine contains_ofDiff_iff fun side hside => ?_
    have hsum := hbound side hside
    omega
  · intro line margin hmargin
    refine isNear_ofDiff_iff fun side hside => ?_
    have hsum := hbound side hside
    omega

/-- The largest window that a range which ends at line two has room for. -/
theorem forall_isSound_largestWindow :
    18446744073709551613 < numberBound ∧
      ∀ range ∈ (ofDiff "@@ -1 +1,2 @@").ranges, range.IsSound 18446744073709551613 := by
  have hwindow : 18446744073709551613 < numberBound := by decide
  exact ⟨hwindow, (forall_isSound_iff "@@ -1 +1,2 @@" hwindow).1.mpr (by decide)⟩

/-- With the next larger window a changed line is no longer near, and a header may announce a range
that is inverted. The configuration is accepted nevertheless. -/
theorem not_isSound_nextWindow :
    (({} : Config).withWindow 18446744073709551614).validate = .ok () ∧
      (ofDiff "@@ -1 +1,2 @@").contains 2 = true ∧
      (ofDiff "@@ -1 +1,2 @@").isNear 2 0 = true ∧
      (ofDiff "@@ -1 +1,2 @@").isNear 2 18446744073709551614 = false ∧
      (ofDiff "@@ -1 +18446744073709551615,2 @@").ranges = [⟨18446744073709551615, 0⟩] := by
  refine ⟨rfl, ?_⟩
  decide

end ChangedLines

end ChangeReview
