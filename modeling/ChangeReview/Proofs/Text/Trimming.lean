import ChangeReview.Proofs.Text.Parts
import ChangeReview.Text.Blank

/-!
# Trimming

Trimming takes blanks off both ends of a text and nothing else. A text whose ends are not blank is
left as it is, and a part without blanks occurs in a text exactly if it occurs in the trimmed text.
-/

namespace ChangeReview

/-- A text of blanks only. -/
def IsBlankText (text : Text) : Prop := ∀ c ∈ text, isBlank c = true

/-- A text that neither begins nor ends with a blank. -/
def IsTrimmed (text : Text) : Prop :=
  (∀ c, text.head? = some c → isBlank c = false) ∧
    ∀ c, text.getLast? = some c → isBlank c = false

instance : DecidablePred IsBlankText := fun text =>
  inferInstanceAs (Decidable (∀ c ∈ text, isBlank c = true))

instance : DecidablePred IsTrimmed := fun text =>
  inferInstanceAs (Decidable ((∀ c ∈ text.head?, isBlank c = false) ∧
    ∀ c ∈ text.getLast?, isBlank c = false))

theorem isBlankText_nil : IsBlankText [] := by simp [IsBlankText]

theorem isBlankText_space : IsBlankText [' '] := by decide

theorem IsBlankText.eq_or_isBlank_of_head? {gap rest : Text} (hgap : IsBlankText gap) {c d : Char}
    (h : (gap ++ c :: rest).head? = some d) : d = c ∨ isBlank d = true := by
  cases gap with
  | nil =>
    rw [List.nil_append, List.head?_cons, Option.some.injEq] at h
    exact Or.inl h.symm
  | cons blank gap =>
    rw [List.cons_append, List.head?_cons, Option.some.injEq] at h
    exact Or.inr (h ▸ hgap blank List.mem_cons_self)

theorem isTrimmed_of_forall {text : Text} (h : ∀ c ∈ text, isBlank c = false) : IsTrimmed text :=
  ⟨fun c hc => h c (List.mem_of_head? hc), fun c hc => h c (List.mem_of_getLast? hc)⟩

theorem isTrimmed_singleton {c : Char} (h : isBlank c = false) : IsTrimmed [c] :=
  isTrimmed_of_forall (by simpa using h)

namespace Text

variable {drop : Char → Bool}

theorem trimEndBy_append_of_all (text : Text) {tail : Text} (h : ∀ c ∈ tail, drop c = true) :
    trimEndBy drop (text ++ tail) = trimEndBy drop text := by
  have htail : trimEndBy drop tail = [] := by
    induction tail with
    | nil => rfl
    | cons c tail ih =>
      rw [trimEndBy, ih fun x hx => h x (List.mem_cons_of_mem _ hx)]
      simp [h c List.mem_cons_self]
  induction text with
  | nil => rw [List.nil_append, htail, trimEndBy]
  | cons c text ih => rw [List.cons_append, trimEndBy, ih]; rfl

/-- A kept character keeps all text before it. -/
theorem trimEndBy_append_of_getLast {text : Text} {last : Char} (hlast : text.getLast? = some last)
    (hkept : drop last = false) (rest : Text) :
    trimEndBy drop (text ++ rest) = text ++ trimEndBy drop rest := by
  induction text with
  | nil => cases hlast
  | cons c text ih =>
    cases text with
    | nil =>
      rw [List.getLast?_singleton, Option.some.injEq] at hlast
      subst hlast
      rw [List.cons_append, List.nil_append, trimEndBy]
      cases trimEndBy drop rest with
      | nil => simp [hkept]
      | cons d kept => rfl
    | cons d text =>
      rw [List.getLast?_cons_cons] at hlast
      rw [List.cons_append, trimEndBy, ih hlast, List.cons_append]
      rfl

theorem trimEndBy_of_getLast {text : Text} (h : ∀ c, text.getLast? = some c → drop c = false) :
    trimEndBy drop text = text := by
  cases hlast : text.getLast? with
  | none => rw [List.getLast?_eq_none_iff.mp hlast]; rfl
  | some last =>
    have := trimEndBy_append_of_getLast hlast (h last hlast) []
    rwa [List.append_nil, trimEndBy, List.append_nil] at this

theorem exists_trimEndBy (drop : Char → Bool) (text : Text) :
    ∃ tail, text = trimEndBy drop text ++ tail ∧ (∀ c ∈ tail, drop c = true) ∧
      ∀ c, (trimEndBy drop text).getLast? = some c → drop c = false := by
  induction text with
  | nil => exact ⟨[], rfl, by simp, by simp [trimEndBy]⟩
  | cons c text ih =>
    obtain ⟨tail, htext, htail, hlast⟩ := ih
    rw [trimEndBy]
    cases hkept : trimEndBy drop text with
    | nil =>
      rw [hkept, List.nil_append] at htext
      by_cases hc : drop c = true
      · refine ⟨c :: text, by simp [hc], ?_, by simp [hc]⟩
        rw [htext]
        exact List.forall_mem_cons.mpr ⟨hc, htail⟩
      · exact ⟨tail, by simp [hc, htext], htail, by simp [hc]⟩
    | cons d kept =>
      rw [hkept] at htext hlast
      refine ⟨tail, by rw [htext]; rfl, htail, fun x hx => hlast x ?_⟩
      simpa [List.getLast?_cons_cons] using hx

theorem trimStartBy_append_of_all {lead : Text} (h : ∀ c ∈ lead, drop c = true) (text : Text) :
    trimStartBy drop (lead ++ text) = trimStartBy drop text :=
  List.dropWhile_append_of_pos h

theorem trimStartBy_of_head {text : Text} (h : ∀ c, text.head? = some c → drop c = false) :
    trimStartBy drop text = text := by
  cases text with
  | nil => rfl
  | cons c text => exact List.dropWhile_cons_of_neg (by simp [h c rfl])

/-- Trimming stops at the first character that is not blank. -/
theorem trimStart_append {lead text : Text} (hlead : IsBlankText lead)
    (h : ∀ c, text.head? = some c → isBlank c = false) : trimStart (lead ++ text) = text := by
  rw [trimStart, trimStartBy_append_of_all hlead, trimStartBy_of_head h]

theorem trimStart_append_cons {lead : Text} (hlead : IsBlankText lead) {c : Char}
    (hc : isBlank c = false) (text : Text) : trimStart (lead ++ c :: text) = c :: text :=
  trimStart_append hlead fun _ hd => Option.some.inj hd ▸ hc

theorem exists_trimStartBy (drop : Char → Bool) (text : Text) :
    ∃ lead, text = lead ++ trimStartBy drop text ∧ (∀ c ∈ lead, drop c = true) ∧
      ∀ c, (trimStartBy drop text).head? = some c → drop c = false := by
  refine ⟨text.takeWhile drop, List.takeWhile_append_dropWhile.symm,
    List.all_eq_true.mp List.all_takeWhile, fun c hc => ?_⟩
  have := List.head?_dropWhile_not drop text
  rw [trimStartBy] at hc
  rw [hc] at this
  simpa using this

/-- A text is its trimmed text between blanks. -/
theorem exists_trim (text : Text) :
    ∃ lead tail, text = lead ++ trim text ++ tail ∧ IsBlankText lead ∧ IsBlankText tail ∧
      IsTrimmed (trim text) := by
  obtain ⟨lead, htext, hlead, hhead⟩ := exists_trimStartBy isBlank text
  obtain ⟨tail, hstart, htail, hlast⟩ := exists_trimEndBy isBlank (trimStartBy isBlank text)
  refine ⟨lead, tail, ?_, hlead, htail, fun c hc => ?_, hlast⟩
  · rw [List.append_assoc, trim, trimBy, ← hstart, ← htext]
  · -- The trimmed text is the start of a text that does not begin with a blank.
    refine hhead c ?_
    rw [hstart, List.head?_append, show (trimEndBy isBlank _).head? = some c from hc]
    rfl

theorem trim_of_isTrimmed {text : Text} (h : IsTrimmed text) : trim text = text := by
  rw [trim, trimBy, trimStartBy_of_head h.1, trimEndBy_of_getLast h.2]

theorem isTrimmed_append {first last : Text} (hfirst : IsTrimmed first) (hlast : IsTrimmed last)
    (hfirstne : first ≠ []) (hlastne : last ≠ []) (middle : Text) :
    IsTrimmed (first ++ middle ++ last) := by
  constructor
  · intro c hc
    rw [List.append_assoc, List.head?_append_of_ne_nil _ hfirstne] at hc
    exact hfirst.1 c hc
  · intro c hc
    rw [List.getLast?_append_of_ne_nil _ hlastne] at hc
    exact hlast.2 c hc

/-- Blanks around a text do not change what it is trimmed to. -/
theorem trim_append {lead tail : Text} (hlead : IsBlankText lead) (htail : IsBlankText tail)
    (text : Text) : trim (lead ++ text ++ tail) = trim text := by
  rw [trim, trimBy, List.append_assoc, trimStartBy_append_of_all hlead, trim, trimBy]
  by_cases hblank : IsBlankText text
  · have hall : ∀ c ∈ text ++ tail, isBlank c = true := fun c hc =>
      (List.mem_append.mp hc).elim (hblank c) (htail c)
    have h1 := trimStartBy_append_of_all hall []
    have h2 := trimStartBy_append_of_all hblank []
    rw [List.append_nil] at h1 h2
    rw [h1, h2]
  · obtain ⟨start, htext, hstart, _⟩ := exists_trimStartBy isBlank text
    have hne : trimStartBy isBlank text ≠ [] := by
      intro hnil
      rw [hnil, List.append_nil] at htext
      exact hblank (htext ▸ hstart)
    rw [trimStartBy, List.dropWhile_append, if_neg (by simpa [trimStartBy] using hne)]
    exact trimEndBy_append_of_all _ htail

/-- Behind a trimmed text only the blanks at the end are dropped. -/
theorem trim_append_right {text : Text} (h : IsTrimmed text) (hne : text ≠ []) (rest : Text) :
    trim (text ++ rest) = text ++ trimEnd rest := by
  obtain ⟨last, hlast⟩ : ∃ last, text.getLast? = some last :=
    Option.ne_none_iff_exists'.mp (by simpa using hne)
  have hhead : ∀ c, (text ++ rest).head? = some c → isBlank c = false := by
    intro c hc
    rw [List.head?_append_of_ne_nil _ hne] at hc
    exact h.1 c hc
  rw [trim, trimBy, trimStartBy_of_head hhead,
    trimEndBy_append_of_getLast hlast (h.2 last hlast), trimEnd]

/-- A trimmed text at the head of a text stays there. -/
theorem exists_trim_append {text : Text} (h : IsTrimmed text) (hne : text ≠ []) (rest : Text) :
    ∃ kept, trim (text ++ rest) = text ++ kept := ⟨_, trim_append_right h hne rest⟩

theorem length_trim_le (text : Text) : (trim text).length ≤ text.length := by
  obtain ⟨lead, tail, htext, _⟩ := exists_trim text
  have hlength := congrArg List.length htext
  simp only [List.length_append] at hlength
  omega

theorem trim_append_left {lead : Text} (hlead : IsBlankText lead) (text : Text) :
    trim (lead ++ text) = trim text := by
  rw [← trim_append hlead isBlankText_nil text, List.append_nil]

theorem trim_eq_nil_iff {text : Text} : trim text = [] ↔ IsBlankText text := by
  constructor
  · intro h
    obtain ⟨lead, tail, htext, hlead, htail, _⟩ := exists_trim text
    rw [h, List.append_nil] at htext
    rw [htext]
    exact fun c hc => (List.mem_append.mp hc).elim (hlead c) (htail c)
  · intro h
    have := trim_append_left h []
    rwa [List.append_nil] at this

/-! ## Parts without blanks -/

/-- A part that does not begin with a character of `lead` does not begin inside it. -/
theorem infix_append_iff_of_head {part lead : Text} {c : Char} (hc : c ∉ lead) (text : Text) :
    c :: part <:+: lead ++ text ↔ c :: part <:+: text := by
  induction lead with
  | nil => rfl
  | cons d lead ih =>
    rw [List.mem_cons, not_or] at hc
    rw [List.cons_append, List.infix_cons_iff, ih hc.2, List.cons_prefix_cons]
    exact ⟨fun h => h.resolve_left fun hd => hc.1 hd.1, Or.inr⟩

/-- A part whose first and last characters are not blank occurs where it occurs once trimmed. -/
theorem infix_trim_iff {part : Text} {first last : Char} (hfirst : isBlank first = false)
    (hlast : isBlank last = false) (hpart : part.reverse.head? = some last) (text : Text) :
    first :: part <:+: trim text ↔ first :: part <:+: text := by
  obtain ⟨lead, tail, htext, hlead, htail, _⟩ := exists_trim text
  have h1 : first ∉ lead := fun h => by simp [hlead first h] at hfirst
  have h2 : last ∉ tail.reverse := fun h => by
    simp [htail last (List.mem_reverse.mp h)] at hlast
  obtain ⟨back, hback⟩ : ∃ back, (first :: part).reverse = last :: back := by
    cases hrev : part.reverse with
    | nil => simp [hrev] at hpart
    | cons x back =>
      rw [hrev, List.head?_cons, Option.some.injEq] at hpart
      exact ⟨back ++ [first], by rw [List.reverse_cons, hrev, hpart]; rfl⟩
  conv_rhs => rw [htext, List.append_assoc, infix_append_iff_of_head h1]
  rw [← List.reverse_infix, ← @List.reverse_infix _ _ (trim text ++ tail), List.reverse_append,
    hback, infix_append_iff_of_head h2]

end Text

end ChangeReview
