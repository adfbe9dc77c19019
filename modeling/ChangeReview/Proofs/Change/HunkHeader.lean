import ChangeReview.Change.Hunk
import ChangeReview.Edit
import ChangeReview.Proofs.Text.Written

/-!
# Reading a written hunk header

`Hunk.header` writes the place of a hunk and `NewSide.ofLine?` reads the part of it that concerns
the new version. `NewSide.ofLine?_header` says that the reading gives back what was written,
whatever follows the header on its line, and `NewSide.ofLine?_eq_none` that no line without an `@`
at its head is taken for a header.
-/

namespace ChangeReview

theorem isDecimalDigit_of_isDigit {c : Char} (h : c.isDigit = true) : isDecimalDigit c = true := by
  have hascii : c.toNat < 0x80 := by
    simp only [Char.isDigit, Bool.and_eq_true, decide_eq_true_eq, UInt32.le_iff_toNat_le] at h
    exact Nat.lt_of_le_of_lt h.2 (by decide)
  rw [isDecimalDigit, if_pos hascii, h]

/-- A number in bounds is read as it was written. -/
theorem boundedNumber?_ofNat {n : Nat} (h : n < numberBound) :
    boundedNumber? (Text.ofNat n) = some n := by
  have hvalue : (Text.ofNat n).foldl (fun value c => 10 * value + (c.toNat - '0'.toNat)) 0 = n :=
    Nat.ofDigitChars_ten_toDigits
  rw [boundedNumber?, if_pos (List.all_eq_true.mpr fun c hc => Text.isDigit_of_mem_ofNat hc)]
  simp only [hvalue, if_pos h]

namespace NewSide

theorem takeDigits?_ofNat {c : Char} (hc : isDecimalDigit c = false) (n : Nat) (rest : Text) :
    takeDigits? (Text.ofNat n ++ c :: rest) = some (Text.ofNat n, c :: rest) := by
  have hall : ∀ d ∈ Text.ofNat n, isDecimalDigit d = true := fun d hd =>
    isDecimalDigit_of_isDigit (Text.isDigit_of_mem_ofNat hd)
  have hhead : (Text.ofNat n ++ c :: rest).head?.any isDecimalDigit = true := by
    have hne : Text.ofNat n ≠ [] := Nat.toDigits_ne_nil
    obtain ⟨d, digits, hdigits⟩ := List.exists_cons_of_ne_nil hne
    rw [hdigits] at hall ⊢
    exact hall d List.mem_cons_self
  rw [takeDigits?, if_pos hhead, List.takeWhile_append_of_pos hall,
    List.dropWhile_append_of_pos hall, List.takeWhile_cons_of_neg (by simp [hc]),
    List.dropWhile_cons_of_neg (by simp [hc]), List.append_nil]

/-- The digits of a written side: the count is absent if it is one. -/
theorem takeSide?_side (before count : Nat) (rest : Text) :
    takeSide? (Hunk.side before count ++ ' ' :: rest) =
      some ((Text.ofNat (if count = 0 then before else before + 1),
        if count = 1 then none else some (Text.ofNat count)), ' ' :: rest) := by
  rw [takeSide?, Hunk.side, List.append_assoc]
  by_cases hcount : count = 1
  · rw [if_pos hcount, List.nil_append, takeDigits?_ofNat (by decide), if_pos hcount]
    rfl
  · rw [if_neg hcount, List.cons_append, takeDigits?_ofNat (by decide), if_neg hcount]
    simp only [Option.bind_eq_bind, Option.bind_some, headIs, List.head?_cons, BEq.rfl,
      ↓reduceIte, List.drop_succ_cons, List.drop_zero,
      takeDigits?_ofNat (show isDecimalDigit ' ' = false by decide)]

theorem expect?_append (mark rest : Text) : expect? mark (mark ++ rest) = some rest := by
  rw [expect?, if_pos (List.isPrefixOf_iff_prefix.mpr (List.prefix_append mark rest)),
    List.drop_left]

/-- A line that does not begin with an `@` is no header. -/
theorem ofLine?_eq_none {line : Text} (h : ∀ c, line.head? = some c → c ≠ '@') :
    ofLine? line = none := by
  have hmark : expect? "@@ -" line = none := by
    rw [expect?, if_neg]
    intro hprefix
    obtain ⟨rest, rfl⟩ := List.isPrefixOf_iff_prefix.mp hprefix
    exact h '@' rfl rfl
  rw [ofLine?, hmark]
  rfl

/-- What a header says about the new version. -/
def ofHunk (hunk : Hunk) : NewSide :=
  ⟨if hunk.inserted.length = 0 then hunk.newBefore else hunk.newBefore + 1, hunk.inserted.length⟩

/-- A header with numbers in bounds is read as it was written. -/
theorem ofLine?_header {hunk : Hunk} (hstart : (ofHunk hunk).start < numberBound)
    (hcount : (ofHunk hunk).count < numberBound) (heading : Text) :
    ofLine? (hunk.header ++ heading) = some (ofHunk hunk) := by
  have hline : hunk.header ++ heading =
      "@@ -".toList ++ (Hunk.side hunk.oldBefore hunk.deleted.length ++
        ' ' :: ('+' :: (Hunk.side hunk.newBefore hunk.inserted.length ++
          ' ' :: ("@@".toList ++ heading)))) := by
    simp [Hunk.header, Text.concat]
  have hplus (rest : Text) : expect? " +" (' ' :: '+' :: rest) = some rest :=
    expect?_append " +".toList rest
  have hclose (rest : Text) : expect? " @@" (' ' :: ("@@".toList ++ rest)) = some rest :=
    expect?_append " @@".toList rest
  rw [hline, ofLine?, expect?_append]
  simp only [Option.bind_eq_bind, Option.bind_some, takeSide?_side, hplus, hclose]
  rw [ofHunk] at hstart hcount ⊢
  rw [boundedNumber?_ofNat hstart]
  by_cases hone : hunk.inserted.length = 1
  · simp [hone]
  · rw [if_neg hone, Option.bind_some, boundedNumber?_ofNat hcount]
    rfl

end NewSide

end ChangeReview
