import ChangeReview.Change.Hunk

/-!
# Announced lines

A hunk header announces lines by two numbers. `NewSide.Announces` says which lines these are, with
exact sums, and `ChangedLines.ranges_ofDiff` which ranges the program makes of the headers of a
diff, with sums of machine words.
-/

namespace ChangeReview

theorem boundedNumber?_lt {digits : Text} {n : Nat} (h : boundedNumber? digits = some n) :
    n < numberBound := by
  rw [boundedNumber?] at h
  split at h
  · dsimp only at h
    split at h
    · next hbound =>
      obtain rfl := Option.some.inj h
      exact hbound
    · cases h
  · cases h

namespace NewSide

/-- The numbers of a header are machine words, also those put in place of unreadable ones. -/
theorem lt_numberBound {line : Text} {side : NewSide} (h : ofLine? line = some side) :
    side.start < numberBound ∧ side.count < numberBound := by
  have hvalue {digits? : Option Nat} {default : Nat} (hdefault : default < numberBound)
      (hdigits : ∀ n, digits? = some n → n < numberBound) :
      digits?.getD default < numberBound := by
    cases digits? with
    | none => exact hdefault
    | some n => exact hdigits n rfl
  simp only [ofLine?, Option.bind_eq_bind, Option.bind_eq_some_iff, Option.some.injEq] at h
  obtain ⟨_, _, _, _, _, _, ⟨⟨start, count⟩, _⟩, _, _, _, rfl⟩ := h
  constructor
  · exact hvalue (by decide) fun n hn => boundedNumber?_lt hn
  · refine hvalue (by decide) fun n hn => ?_
    obtain ⟨digits, _, hdigits⟩ := Option.bind_eq_some_iff.mp hn
    exact boundedNumber?_lt hdigits

/-- The header announces the line: the lines begin with its first number, and there are as many as
its second says. A first number of zero is that of a file without lines. -/
def Announces (side : NewSide) (line : Nat) : Prop :=
  0 < side.start ∧ side.start ≤ line ∧ line < side.start + side.count

/-- The headers of a diff that announce lines, in order. -/
def announcing (diff : Text) : List NewSide :=
  ((Text.splitOnChar '\n' diff).filterMap ofLine?).filter fun side =>
    0 < side.start && 0 < side.count

variable {diff : Text} {side : NewSide}

/-- A header among the announcing ones has numbers that are machine words and not zero. -/
theorem bounds_of_mem_announcing (h : side ∈ announcing diff) :
    (0 < side.start ∧ side.start < numberBound) ∧ 0 < side.count ∧ side.count < numberBound := by
  obtain ⟨hmem, hpos⟩ := List.mem_filter.mp h
  obtain ⟨line, _, hline⟩ := List.mem_filterMap.mp hmem
  obtain ⟨hstart, hcount⟩ := lt_numberBound hline
  simp only [Bool.and_eq_true, decide_eq_true_eq] at hpos
  exact ⟨⟨hpos.1, hstart⟩, hpos.2, hcount⟩

/-- An announcing header announces its first line. -/
theorem announces_start (h : side ∈ announcing diff) : side.Announces side.start := by
  obtain ⟨⟨hstart, _⟩, hcount, _⟩ := bounds_of_mem_announcing h
  exact ⟨hstart, Nat.le_refl _, by omega⟩

end NewSide

/-- The ranges of a diff are those of its announcing headers, with ends that are machine words. -/
theorem ChangedLines.ranges_ofDiff (diff : Text) :
    (ofDiff diff).ranges = (NewSide.announcing diff).map fun side =>
      ⟨side.start, wrap (side.start + side.count - 1)⟩ := by
  rw [ofDiff, NewSide.announcing]
  induction Text.splitOnChar '\n' diff with
  | nil => rfl
  | cons line lines ih =>
    simp only [List.filterMap_cons]
    cases NewSide.ofLine? line with
    | none => exact ih
    | some side =>
      rw [Option.bind_some, List.filter_cons, NewSide.range?]
      by_cases hpos : (decide (0 < side.start) && decide (0 < side.count)) = true
      · rw [if_pos hpos, if_pos hpos, List.map_cons, ← ih]
      · rw [if_neg hpos, if_neg hpos]
        exact ih

end ChangeReview
