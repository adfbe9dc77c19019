import ChangeReview.Edit
import Mathlib.Data.List.Basic

/-!
# The lines that a script inserts

Going along an edit script, each longest run of deletions and insertions becomes a hunk.
`Edit.exists_mem_hunks_adds` says that the hunks together add exactly the lines that the script
inserts, under the numbers that these have in the new version, and `Edit.pairwise_hunks` that a kept
line stands between any two of them.
-/

namespace ChangeReview

/-- Whether a hunk adds the line with this number of the new version. -/
def Hunk.Adds (hunk : Hunk) (number : Nat) : Prop :=
  hunk.newBefore < number ∧ number ≤ hunk.newBefore + hunk.inserted.length

namespace Edit

/-- The line that an edit is about. -/
def line : Edit → DiffLine
  | keep line => line
  | delete line => line
  | insert line => line

/-- Whether the script inserts the line with this number of the new version. -/
def Inserts (edits : List Edit) (number : Nat) : Prop :=
  ∃ before line after, edits = before ++ insert line :: after ∧
    number = (newLines before).length + 1

theorem inserts_nil (number : Nat) : ¬ Inserts [] number := by
  rintro ⟨before, line, after, h, _⟩
  simp at h

theorem inserts_keep {line : DiffLine} {edits : List Edit} {number : Nat} :
    Inserts (keep line :: edits) number ↔ ∃ n, number = n + 1 ∧ Inserts edits n := by
  constructor
  · rintro ⟨before, inserted, after, h, rfl⟩
    cases before with
    | nil => cases h
    | cons edit before =>
      obtain ⟨rfl, rfl⟩ := List.cons.inj h
      exact ⟨_, rfl, before, inserted, after, rfl, rfl⟩
  · rintro ⟨n, rfl, before, inserted, after, rfl, rfl⟩
    exact ⟨keep line :: before, inserted, after, rfl, rfl⟩

theorem inserts_delete {line : DiffLine} {edits : List Edit} {number : Nat} :
    Inserts (delete line :: edits) number ↔ Inserts edits number := by
  constructor
  · rintro ⟨before, inserted, after, h, rfl⟩
    cases before with
    | nil => cases h
    | cons edit before =>
      obtain ⟨rfl, rfl⟩ := List.cons.inj h
      exact ⟨before, inserted, after, rfl, rfl⟩
  · rintro ⟨before, inserted, after, rfl, rfl⟩
    exact ⟨delete line :: before, inserted, after, rfl, rfl⟩

theorem inserts_insert {line : DiffLine} {edits : List Edit} {number : Nat} :
    Inserts (insert line :: edits) number ↔
      number = 1 ∨ ∃ n, number = n + 1 ∧ Inserts edits n := by
  constructor
  · rintro ⟨before, inserted, after, h, rfl⟩
    cases before with
    | nil => exact .inl rfl
    | cons edit before =>
      obtain ⟨rfl, rfl⟩ := List.cons.inj h
      exact .inr ⟨_, rfl, before, inserted, after, rfl, rfl⟩
  · rintro (rfl | ⟨n, rfl, before, inserted, after, rfl, rfl⟩)
    · exact ⟨[], line, edits, rfl, rfl⟩
    · exact ⟨insert line :: before, inserted, after, rfl, rfl⟩

theorem mem_toList_hunk {h hunk : Hunk} :
    h ∈ hunk.toList ↔ h = hunk ∧ hunk.isEmpty = false := by
  unfold Hunk.toList
  split <;> simp_all

theorem exists_mem_toList_adds {hunk : Hunk} {number : Nat} :
    (∃ h ∈ hunk.toList, h.Adds number) ↔ hunk.Adds number := by
  constructor
  · rintro ⟨h, hmem, hadds⟩
    exact (mem_toList_hunk.mp hmem).1 ▸ hadds
  · intro hadds
    refine ⟨hunk, mem_toList_hunk.mpr ⟨rfl, ?_⟩, hadds⟩
    by_contra hempty
    have hnil : hunk.inserted = [] := by simp_all [Hunk.isEmpty]
    obtain ⟨hlow, hhigh⟩ := hadds
    rw [hnil, List.length_nil] at hhigh
    omega

/-- Along a script, the hunks add what was inserted before and what the rest inserts. -/
theorem exists_mem_hunksAfter_adds {hunk : Hunk} {edits : List Edit} {number : Nat} :
    (∃ h ∈ hunksAfter hunk edits, h.Adds number) ↔
      hunk.Adds number ∨
        ∃ n, number = hunk.newBefore + hunk.inserted.length + n ∧ Inserts edits n := by
  induction edits generalizing hunk with
  | nil => simp [hunksAfter, exists_mem_toList_adds, inserts_nil]
  | cons edit edits ih =>
    cases edit with
    | keep line =>
      -- A kept line ends the hunk under way; the next one starts empty, behind that line.
      simp only [hunksAfter, List.mem_append, or_and_right, exists_or, exists_mem_toList_adds, ih,
        inserts_keep]
      refine or_congr_right ⟨?_, ?_⟩
      · rintro (⟨hlow, hhigh⟩ | ⟨n, rfl, hn⟩)
        · dsimp only [List.length_nil] at hlow hhigh
          omega
        · exact ⟨n + 1, by dsimp only [List.length_nil]; omega, n, rfl, hn⟩
      · rintro ⟨_, rfl, n, rfl, hn⟩
        exact .inr ⟨n, by dsimp only [List.length_nil]; omega, hn⟩
    | delete line =>
      rw [hunksAfter, ih]
      simp only [inserts_delete]
      rfl
    | insert line =>
      -- The line is the last of the hunk, or the first that the rest of the script inserts.
      rw [hunksAfter, ih]
      simp only [inserts_insert, Hunk.Adds, List.length_append, List.length_singleton]
      constructor
      · rintro (⟨hlow, hhigh⟩ | ⟨n, rfl, hn⟩)
        · by_cases hlast : number = hunk.newBefore + hunk.inserted.length + 1
          · exact .inr ⟨1, hlast, .inl rfl⟩
          · exact .inl ⟨hlow, by omega⟩
        · exact .inr ⟨n + 1, by omega, .inr ⟨n, rfl, hn⟩⟩
      · rintro (⟨hlow, hhigh⟩ | ⟨_, rfl, rfl | ⟨n, rfl, hn⟩⟩)
        · exact .inl ⟨hlow, by omega⟩
        · exact .inl ⟨by omega, by omega⟩
        · exact .inr ⟨n, by omega, hn⟩

/-- The hunks of a script add exactly the lines that the script inserts. -/
theorem exists_mem_hunks_adds {edits : List Edit} {number : Nat} :
    (∃ hunk ∈ hunks edits, hunk.Adds number) ↔ Inserts edits number := by
  rw [hunks, exists_mem_hunksAfter_adds]
  constructor
  · rintro (⟨hlow, hhigh⟩ | ⟨n, rfl, hn⟩)
    · dsimp only [List.length_nil] at hlow hhigh
      omega
    · simpa using hn
  · exact fun h => .inr ⟨number, by simp, h⟩

/-- Every line of a hunk comes from the script. -/
theorem forall_mem_hunksAfter {P : DiffLine → Prop} {hunk : Hunk} {edits : List Edit}
    (hhunk : ∀ line ∈ hunk.deleted ++ hunk.inserted, P line)
    (hedits : ∀ edit ∈ edits, P edit.line) :
    ∀ h ∈ hunksAfter hunk edits, ∀ line ∈ h.deleted ++ h.inserted, P line := by
  induction edits generalizing hunk with
  | nil =>
    intro h hh
    rwa [(mem_toList_hunk.mp hh).1]
  | cons edit edits ih =>
    obtain ⟨hedit, hrest⟩ := List.forall_mem_cons.mp hedits
    clear hedits
    cases edit with
    | keep line =>
      intro h hh
      rcases List.mem_append.mp hh with hh | hh
      · rwa [(mem_toList_hunk.mp hh).1]
      · exact ih (by simp) hrest h hh
    | delete line =>
      refine ih (fun l hl => ?_) hrest
      rw [List.mem_append, List.mem_append, List.mem_singleton, or_right_comm] at hl
      rcases hl with hl | rfl
      · exact hhunk l (List.mem_append.mpr hl)
      · exact hedit
    | insert line =>
      refine ih (fun l hl => ?_) hrest
      rw [List.mem_append, List.mem_append, List.mem_singleton, ← or_assoc] at hl
      rcases hl with hl | rfl
      · exact hhunk l (List.mem_append.mpr hl)
      · exact hedit

/-- The hunks from here on begin where the hunk under way begins, or after it. -/
theorem newBefore_le_of_mem_hunksAfter {hunk : Hunk} {edits : List Edit} :
    ∀ h ∈ hunksAfter hunk edits, hunk.newBefore ≤ h.newBefore := by
  induction edits generalizing hunk with
  | nil => exact fun h hh => (mem_toList_hunk.mp hh).1 ▸ Nat.le_refl _
  | cons edit edits ih =>
    intro h hh
    cases edit with
    | keep line =>
      rcases List.mem_append.mp hh with hh | hh
      · exact (mem_toList_hunk.mp hh).1 ▸ Nat.le_refl _
      · have := ih h hh
        dsimp only at this
        omega
    | delete line =>
      rw [hunksAfter] at hh
      have := ih h hh
      exact this
    | insert line =>
      rw [hunksAfter] at hh
      have := ih h hh
      exact this

theorem pairwise_hunksAfter (hunk : Hunk) (edits : List Edit) :
    (hunksAfter hunk edits).Pairwise
      fun a b => a.newBefore + a.inserted.length < b.newBefore := by
  induction edits generalizing hunk with
  | nil =>
    rw [hunksAfter, Hunk.toList]
    split <;> simp
  | cons edit edits ih =>
    cases edit with
    | keep line =>
      refine List.pairwise_append.mpr ⟨?_, ih _, fun a ha b hb => ?_⟩
      · rw [Hunk.toList]
        split <;> simp
      · -- The kept line stands between the hunk that it ends and all later ones.
        have := newBefore_le_of_mem_hunksAfter b hb
        rw [(mem_toList_hunk.mp ha).1]
        dsimp only at this
        omega
    | delete line => exact ih _
    | insert line => exact ih _

/-- Between two hunks of a script lies a line that both versions have. -/
theorem pairwise_hunks (edits : List Edit) :
    (hunks edits).Pairwise fun a b => a.newBefore + a.inserted.length < b.newBefore :=
  pairwise_hunksAfter _ edits

end Edit

end ChangeReview
