import ChangeReview.Proofs.Text.Parts

/-!
# Texts made of pieces

What a text that is written piece by piece or line by line consists of, and how its lines are found
again.
-/

namespace ChangeReview.Text

theorem forall_mem_concat {p : Char → Prop} {pieces : List Text}
    (h : ∀ piece ∈ pieces, ∀ c ∈ piece, p c) : ∀ c ∈ concat pieces, p c := by
  intro c hc
  obtain ⟨piece, hpiece, hc⟩ := List.mem_flatten.mp hc
  exact h piece hpiece c hc

theorem notMem_concat {c : Char} {pieces : List Text} (h : ∀ piece ∈ pieces, c ∉ piece) :
    c ∉ concat pieces := by
  intro hc
  obtain ⟨piece, hpiece, hc⟩ := List.mem_flatten.mp hc
  exact h piece hpiece hc

theorem concat_append (a b : List Text) : concat (a ++ b) = concat a ++ concat b :=
  List.flatten_append

theorem concat_cons (piece : Text) (pieces : List Text) :
    concat (piece :: pieces) = piece ++ concat pieces := rfl

/-- Putting one character for another changes a text character by character. -/
theorem replaceChar_singleton (old new : Char) (text : Text) :
    replaceChar old [new] text = text.map fun c => if c = old then new else c := by
  rw [replaceChar, List.map_eq_flatMap]
  refine List.flatMap_congr fun c _ => ?_
  split <;> rfl

/-! ## Numbers -/

theorem isDigit_of_mem_ofNat {n : Nat} {c : Char} (h : c ∈ ofNat n) : c.isDigit = true :=
  Nat.isDigit_of_mem_toDigits (by decide) (by decide) h

theorem exists_ofNat (n : Nat) : ∃ d digits, ofNat n = d :: digits ∧ d.isDigit = true := by
  obtain ⟨d, digits, hdigits⟩ := List.exists_cons_of_ne_nil (Nat.toDigits_ne_nil (n := n) (b := 10))
  have hd : d ∈ ofNat n := by
    rw [ofNat, hdigits]
    exact List.mem_cons_self
  exact ⟨d, digits, hdigits, isDigit_of_mem_ofNat hd⟩

theorem notMem_ofNat {c : Char} (h : c.isDigit = false) (n : Nat) : c ∉ ofNat n := by
  intro hc
  rw [isDigit_of_mem_ofNat hc] at h
  cases h

theorem ofNat_injective {a b : Nat} (h : ofNat a = ofNat b) : a = b := by
  have hvalue := congrArg (fun digits => Nat.ofDigitChars 10 digits 0) h
  simpa [ofNat] using hvalue

/-- The numbers in a text, where `pending` is the one that ends before the text unless a digit goes
on with it. -/
def numbersFrom (pending : Option Nat) : Text → List Nat
  | [] => pending.toList
  | c :: rest =>
    if c.isDigit then numbersFrom (some (10 * pending.getD 0 + (c.toNat - '0'.toNat))) rest
    else pending.toList ++ numbersFrom none rest

/-- The numbers in a text: what its runs of digits write. -/
def numbers (text : Text) : List Nat := numbersFrom none text

theorem numbersFrom_of_digits {digits : Text} (hdigits : ∀ c ∈ digits, c.isDigit = true) (n : Nat)
    (rest : Text) :
    numbersFrom (some n) (digits ++ rest) =
      numbersFrom (some (Nat.ofDigitChars 10 digits n)) rest := by
  induction digits generalizing n with
  | nil => rfl
  | cons c digits ih =>
    rw [List.forall_mem_cons] at hdigits
    rw [List.cons_append, numbersFrom, if_pos hdigits.1, Option.getD_some, ih hdigits.2,
      Nat.ofDigitChars_cons]

theorem numbersFrom_of_letters {letters : Text} (hletters : ∀ c ∈ letters, c.isDigit = false)
    (rest : Text) : numbersFrom none (letters ++ rest) = numbersFrom none rest := by
  induction letters with
  | nil => rfl
  | cons c letters ih =>
    rw [List.forall_mem_cons] at hletters
    rw [List.cons_append, numbersFrom, if_neg (Bool.eq_false_iff.mp hletters.1), ih hletters.2]
    rfl

/-- A piece of text that ends a number before it. -/
structure IsWords (piece : Text) : Prop where
  ne_nil : piece ≠ []
  isDigit : ∀ c ∈ piece, c.isDigit = false

instance : DecidablePred IsWords := fun piece =>
  decidable_of_iff (piece ≠ [] ∧ ∀ c ∈ piece, c.isDigit = false)
    ⟨fun h => ⟨h.1, h.2⟩, fun h => ⟨h.ne_nil, h.isDigit⟩⟩

theorem numbers_words {piece : Text} (h : IsWords piece) (pieces : List Text) :
    numbers (concat (piece :: pieces)) = numbers (concat pieces) := by
  rw [concat_cons, numbers, numbersFrom_of_letters h.isDigit, numbers]

/-- A number that is written before some words is found. -/
theorem numbers_ofNat (n : Nat) {piece : Text} (h : IsWords piece) (pieces : List Text) :
    numbers (concat (ofNat n :: piece :: pieces)) = n :: numbers (concat pieces) := by
  have hnumber : numbersFrom none (ofNat n ++ concat (piece :: pieces)) =
      numbersFrom (some n) (concat (piece :: pieces)) := by
    obtain ⟨d, digits, hn, hd⟩ := exists_ofNat n
    have hdigits : ∀ c ∈ digits, c.isDigit = true := fun c hc =>
      isDigit_of_mem_ofNat (hn ▸ List.mem_cons_of_mem d hc)
    rw [hn, List.cons_append, numbersFrom, if_pos hd, numbersFrom_of_digits hdigits,
      Option.getD_none, ← Nat.ofDigitChars_cons, ← hn]
    exact congrArg (numbersFrom · _) (congrArg some Nat.ofDigitChars_ten_toDigits)
  obtain ⟨c, letters, rfl⟩ := List.exists_cons_of_ne_nil h.ne_nil
  have hc : ¬ c.isDigit = true := Bool.eq_false_iff.mp (h.isDigit c List.mem_cons_self)
  calc
    numbers (concat (ofNat n :: (c :: letters) :: pieces)) =
        numbersFrom (some n) (concat ((c :: letters) :: pieces)) := hnumber
    _ = n :: numbers (concat ((c :: letters) :: pieces)) := by
      rw [numbers, concat_cons, List.cons_append, numbersFrom, numbersFrom, if_neg hc, if_neg hc]
      rfl
    _ = n :: numbers (concat pieces) := by rw [numbers_words h]

/-! ## Lines -/

theorem unlines_cons (line : Text) (lines : List Text) :
    unlines (line :: lines) = line ++ '\n' :: unlines lines := by
  rw [unlines, List.map_cons, concat_cons, List.append_assoc, List.singleton_append, unlines]

theorem unlines_append (a b : List Text) : unlines (a ++ b) = unlines a ++ unlines b := by
  rw [unlines, List.map_append, concat_append, unlines, unlines]

theorem getLast?_unlines {lines : List Text} (h : lines ≠ []) :
    (unlines lines).getLast? = some '\n' := by
  obtain ⟨front, last, rfl⟩ := lines.eq_nil_or_concat.resolve_left h
  rw [List.concat_eq_append, unlines_append]
  simp [unlines, concat]

/-- Text that is written line by line is cut at its line feeds, those in the lines included. -/
theorem splitOnChar_unlines_append (lines : List Text) (rest : Text) :
    splitOnChar '\n' (unlines lines ++ rest) =
      lines.flatMap (splitOnChar '\n') ++ splitOnChar '\n' rest := by
  induction lines with
  | nil => rfl
  | cons line lines ih =>
    rw [unlines_cons, List.append_assoc, List.cons_append, splitOnChar_append_separator, ih,
      List.flatMap_cons, List.append_assoc]

theorem notMem_of_mem_splitOnChar {separator : Char} {text part : Text}
    (h : part ∈ splitOnChar separator text) : separator ∉ part := by
  induction text generalizing part with
  | nil =>
    rw [splitOnChar, List.mem_singleton] at h
    rw [h]
    exact List.not_mem_nil
  | cons c text ih =>
    by_cases hc : c = separator
    · rw [hc, splitOnChar_separator, List.mem_cons] at h
      rcases h with rfl | h
      · exact List.not_mem_nil
      · exact ih h
    · obtain ⟨first, parts, hparts⟩ := List.exists_cons_of_ne_nil (splitOnChar_ne_nil text)
      rw [splitOnChar_cons_of_ne hc hparts, List.mem_cons] at h
      rcases h with rfl | h
      · rw [List.mem_cons, not_or]
        exact ⟨Ne.symm hc, ih (hparts ▸ List.mem_cons_self)⟩
      · exact ih (hparts ▸ List.mem_cons_of_mem _ h)

/-- Nothing stands in a part that does not stand in the text. -/
theorem mem_of_mem_splitOnChar {separator c : Char} {text part : Text}
    (hpart : part ∈ splitOnChar separator text) (hc : c ∈ part) : c ∈ text := by
  induction text generalizing part with
  | nil =>
    rw [splitOnChar, List.mem_singleton] at hpart
    exact hpart ▸ hc
  | cons d text ih =>
    by_cases hd : d = separator
    · rw [hd, splitOnChar_separator, List.mem_cons] at hpart
      rcases hpart with rfl | hpart
      · cases hc
      · exact List.mem_cons_of_mem d (ih hpart hc)
    · obtain ⟨first, parts, hparts⟩ := List.exists_cons_of_ne_nil (splitOnChar_ne_nil text)
      rw [splitOnChar_cons_of_ne hd hparts, List.mem_cons] at hpart
      rcases hpart with rfl | hpart
      · exact (List.mem_cons.mp hc).elim (fun hc => hc ▸ List.mem_cons_self) fun hc =>
          List.mem_cons_of_mem d (ih (hparts ▸ List.mem_cons_self) hc)
      · exact List.mem_cons_of_mem d (ih (hparts ▸ List.mem_cons_of_mem _ hpart) hc)

theorem flatMap_splitOnChar {separator : Char} {lines : List Text}
    (h : ∀ line ∈ lines, separator ∉ line) : lines.flatMap (splitOnChar separator) = lines := by
  rw [List.flatMap_congr fun line hline => splitOnChar_of_notMem (h line hline),
    List.flatMap_singleton']

/-- Lines without a line feed are found again. -/
theorem splitOnChar_unlines {lines : List Text} (h : ∀ line ∈ lines, '\n' ∉ line) :
    splitOnChar '\n' (unlines lines) = lines ++ [[]] := by
  have hcut := splitOnChar_unlines_append lines []
  rwa [List.append_nil, flatMap_splitOnChar h] at hcut

end ChangeReview.Text
