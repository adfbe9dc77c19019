import ChangeReview.Text
import Mathlib.Data.Char
import Mathlib.Data.List.Lex
import Mathlib.Tactic.SplitIfs

/-!
# The order of bytes

Names are sorted by their bytes where directories are read, and by their characters where paths are
compared. UTF-8 keeps the order of characters, so both sort alike: `Text.utf8_lt_utf8_iff`.
-/

namespace ChangeReview.Text

/-- What two lists begin with does not decide between them. -/
theorem append_lt_append_iff {α : Type} [LT α] [Std.Irrefl (α := α) (· < ·)] (front a b : List α) :
    front ++ a < front ++ b ↔ a < b := by
  induction front with
  | nil => rfl
  | cons x front ih =>
    rw [List.cons_append, List.cons_append, List.cons_lt_cons_iff, ih]
    constructor
    · rintro (hx | ⟨_, h⟩)
      · exact absurd hx (Std.Irrefl.irrefl x)
      · exact h
    · exact fun h => .inr ⟨rfl, h⟩

/-- Numbers are ordered by their groups of six bits, the highest first. -/
theorem sixBits_lt {m n : ℕ} (h : m < n) (hn : n < 2097152) :
    m / 262144 % 8 < n / 262144 % 8 ∨ m / 262144 % 8 = n / 262144 % 8 ∧
      (m / 4096 % 64 < n / 4096 % 64 ∨ m / 4096 % 64 = n / 4096 % 64 ∧
        (m / 64 % 64 < n / 64 % 64 ∨ m / 64 % 64 = n / 64 % 64 ∧ m % 64 < n % 64)) := by
  have hgroups : ∀ k < 2097152, k =
      k / 262144 % 8 * 262144 + k / 4096 % 64 * 4096 + k / 64 % 64 * 64 + k % 64 := by omega
  have hm := hgroups m (h.trans hn)
  have hn := hgroups n hn
  omega

/-- The bytes of two characters decide, whatever follows them. -/
theorem utf8EncodeChar_append_lt {c d : Char} (h : c < d) (x y : List UInt8) :
    String.utf8EncodeChar c ++ x < String.utf8EncodeChar d ++ y := by
  have hvalue : c.val.toNat < d.val.toNat := h
  have hbound : d.val.toNat < 1114112 := d.valid.elim (·.trans (by decide)) (·.2)
  have hgroups := sixBits_lt hvalue (hbound.trans (by decide))
  -- A first byte and a byte that continues a character stay below 256.
  have hfirst : ∀ k, (k % 8 + 240) % 2 ^ 8 = k % 8 + 240 := by omega
  have hnext : ∀ k, (k % 64 + 128) % 2 ^ 8 = k % 64 + 128 := by omega
  unfold String.utf8EncodeChar
  dsimp only
  split_ifs
  all_goals simp only [List.cons_append, List.nil_append, List.cons_lt_cons_iff,
    UInt8.lt_iff_toNat_lt, ← UInt8.toNat_inj, UInt8.toNat_ofNat', hfirst, hnext]
  all_goals omega

theorem utf8_cons (c : Char) (text : Text) :
    utf8 (c :: text) = String.utf8EncodeChar c ++ utf8 text := List.flatMap_cons

/-- Texts are ordered as their bytes are. -/
theorem utf8_lt_utf8_iff {a b : Text} : a.utf8 < b.utf8 ↔ a < b := by
  induction a generalizing b with
  | nil =>
    cases b with
    | nil => exact iff_of_false (List.lt_irrefl _) (List.lt_irrefl _)
    | cons d b =>
      have hbytes : utf8 (d :: b) ≠ [] := fun h =>
        String.utf8EncodeChar_ne_nil (List.append_eq_nil_iff.mp h).1
      obtain ⟨x, bytes, hcons⟩ := List.exists_cons_of_ne_nil hbytes
      rw [hcons]
      exact iff_of_true (List.nil_lt_cons x bytes) (List.nil_lt_cons d b)
  | cons c a ih =>
    cases b with
    | nil => exact iff_of_false (List.not_lt_nil _) (List.not_lt_nil _)
    | cons d b =>
      rw [utf8_cons, utf8_cons, List.cons_lt_cons_iff]
      rcases lt_trichotomy c d with hlt | rfl | hgt
      · exact iff_of_true (utf8EncodeChar_append_lt hlt _ _) (.inl hlt)
      · rw [append_lt_append_iff, ih]
        simp
      · refine iff_of_false (List.lt_asymm (utf8EncodeChar_append_lt hgt _ _)) ?_
        rintro (hlt | ⟨heq, _⟩)
        · exact lt_asymm hgt hlt
        · exact hgt.ne' heq

end ChangeReview.Text
