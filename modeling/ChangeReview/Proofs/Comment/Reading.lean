import ChangeReview.Comment
import ChangeReview.Proofs.Nesting.Balance
import ChangeReview.Proofs.Text.Trimming

/-!
# Reading comments character by character

The bytes of a line are read with one byte of look-ahead. `Comment.Reading` reads its characters
one at a time instead and remembers a slash, a star or a backslash just read.
`Comment.openAfter_eq` says that both find the same comments open, and the lemmas after it say what
opens and closes a comment: nothing but `/*` opens one, and nothing but `*/` closes it.
-/

namespace ChangeReview.Comment

/-- What the characters of a line read so far amount to. -/
inductive Reading where
  | code
  /-- In code, just after a slash. -/
  | slash
  | literal (quote : Char)
  /-- In a literal, just after a backslash. -/
  | escape (quote : Char)
  | lineComment
  | comment
  /-- In a block comment, just after a star that did not open it. -/
  | star
  deriving DecidableEq, Repr

namespace Reading

/-- The reading after one more character. -/
def next : Reading → Char → Reading
  | code, c => if c = '/' then slash else if Nesting.isQuote c then literal c else code
  | slash, c =>
    if c = '/' then lineComment
    else if c = '*' then comment
    else if Nesting.isQuote c then literal c
    else code
  | literal quote, c =>
    if c = '\\' then escape quote else if c = quote then code else literal quote
  | escape quote, _ => literal quote
  | lineComment, _ => lineComment
  | comment, c => if c = '*' then star else comment
  | star, c => if c = '/' then code else if c = '*' then star else comment

/-- The reading after a text. -/
def after (reading : Reading) (text : Text) : Reading := text.foldl next reading

/-- Whether a block comment is open. -/
def isOpen : Reading → Bool
  | comment => true
  | star => true
  | _ => false

/-- The reading at the start of a line. -/
def ofOpen (isOpen : Bool) : Reading := if isOpen then comment else code

/-- The state of the reader of bytes, and the bytes that it has yet to look at again. -/
def pending : Reading → LineState × List UInt8
  | code => (.code, [])
  | slash => (.code, [ascii '/'])
  | literal quote => (.literal (ascii quote), [])
  | escape quote => (.literal (ascii quote), [ascii '\\'])
  | lineComment => (.code, [ascii '/', ascii '/'])
  | comment => (.comment, [])
  | star => (.comment, [ascii '*'])

/-- A literal is opened by a quote only. -/
def QuotesOnly : Reading → Prop
  | literal quote => Nesting.isQuote quote = true
  | escape quote => Nesting.isQuote quote = true
  | _ => True

@[simp] theorem after_cons (reading : Reading) (c : Char) (text : Text) :
    reading.after (c :: text) = (reading.next c).after text := rfl

theorem after_append (reading : Reading) (a b : Text) :
    reading.after (a ++ b) = (reading.after a).after b := List.foldl_append

theorem quotesOnly_next {reading : Reading} (h : reading.QuotesOnly) (c : Char) :
    (reading.next c).QuotesOnly := by
  cases reading <;> simp only [next] <;> (try split_ifs) <;> simp_all [QuotesOnly]

theorem quotesOnly_ofOpen (isOpen : Bool) : (ofOpen isOpen).QuotesOnly := by
  cases isOpen <;> trivial

end Reading

/-! ## Bytes of a character -/

/-- Only the first byte of a character can be an ASCII one. -/
theorem utf8EncodeChar_eq_cons (c : Char) :
    ∃ b bs, String.utf8EncodeChar c = b :: bs ∧ ∀ x ∈ bs, 128 ≤ x.toNat := by
  unfold String.utf8EncodeChar
  dsimp only
  split_ifs
  all_goals refine ⟨_, _, rfl, fun x hx => ?_⟩
  all_goals simp only [List.mem_cons, List.not_mem_nil, or_false] at hx
  · rw [hx, UInt8.toNat_ofNat']; omega
  · rcases hx with rfl | rfl <;> rw [UInt8.toNat_ofNat'] <;> omega
  · rcases hx with rfl | rfl | rfl <;> rw [UInt8.toNat_ofNat'] <;> omega

/-- The byte of an ASCII character occurs in no other character. -/
theorem ascii_notMem_utf8EncodeChar {c d : Char} (hd : d.toNat < 128) (hne : c ≠ d) :
    ascii d ∉ String.utf8EncodeChar c := by
  have hbyte : (ascii d).toNat = d.toNat := by
    show (UInt8.ofNat d.toNat).toNat = d.toNat
    rw [UInt8.toNat_ofNat']
    omega
  have hvalue : c.val.toNat ≠ d.toNat := fun h => hne (Char.ext (UInt32.toNat_inj.mp h))
  intro hmem
  unfold String.utf8EncodeChar at hmem
  dsimp only at hmem
  split_ifs at hmem with h1 h2 h3
  all_goals simp only [List.mem_cons, List.not_mem_nil, or_false, ← UInt8.toNat_inj, hbyte,
    UInt8.toNat_ofNat'] at hmem
  all_goals omega

/-! ## The two readers agree -/

theorem openAtEnd_code_plain {b : UInt8} (hslash : b ≠ ascii '/') (hquote : isQuote b = false)
    (bs : List UInt8) : openAtEnd .code (b :: bs) = openAtEnd .code bs := by
  cases bs with
  | nil => simp [openAtEnd]
  | cons b' bs => rw [openAtEnd]; simp [hslash, hquote]

theorem openAtEnd_code_quote {b : UInt8} (hslash : b ≠ ascii '/') (hquote : isQuote b = true)
    (bs : List UInt8) : openAtEnd .code (b :: bs) = openAtEnd (.literal b) bs := by
  cases bs with
  | nil => simp [openAtEnd]
  | cons b' bs => rw [openAtEnd]; simp [hslash, hquote]

theorem openAtEnd_literal_plain {quote b : UInt8} (hescape : b ≠ ascii '\\') (hquote : b ≠ quote)
    (bs : List UInt8) : openAtEnd (.literal quote) (b :: bs) = openAtEnd (.literal quote) bs := by
  cases bs with
  | nil => simp [openAtEnd]
  | cons b' bs => rw [openAtEnd]; simp [hescape, hquote]

theorem openAtEnd_literal_close {quote : UInt8} (hescape : quote ≠ ascii '\\') (bs : List UInt8) :
    openAtEnd (.literal quote) (quote :: bs) = openAtEnd .code bs := by
  cases bs with
  | nil => simp [openAtEnd]
  | cons b' bs => rw [openAtEnd]; simp [hescape]

theorem openAtEnd_comment_plain {b : UInt8} (hstar : b ≠ ascii '*') (bs : List UInt8) :
    openAtEnd .comment (b :: bs) = openAtEnd .comment bs := by
  cases bs with
  | nil => simp [openAtEnd]
  | cons b' bs => rw [openAtEnd]; simp [hstar]

/-- Bytes without a meaning in a state are passed over. -/
theorem openAtEnd_append {state : LineState} {skipped : List UInt8}
    (hskip : ∀ b ∈ skipped, ∀ bs, openAtEnd state (b :: bs) = openAtEnd state bs)
    (bs : List UInt8) : openAtEnd state (skipped ++ bs) = openAtEnd state bs := by
  induction skipped with
  | nil => rfl
  | cons b skipped ih =>
    rw [List.cons_append, hskip b List.mem_cons_self, ih]
    exact fun x hx => hskip x (List.mem_cons_of_mem _ hx)

theorem isQuote_utf8 {c : Char} (hquote : Nesting.isQuote c = false) {b : UInt8}
    (hb : b ∈ String.utf8EncodeChar c) : isQuote b = false := by
  simp only [Nesting.isQuote, Bool.or_eq_false_iff, beq_eq_false_iff_ne] at hquote
  obtain ⟨⟨h1, h2⟩, h3⟩ := hquote
  have h1 := ascii_notMem_utf8EncodeChar (by decide) h1
  have h2 := ascii_notMem_utf8EncodeChar (by decide) h2
  have h3 := ascii_notMem_utf8EncodeChar (by decide) h3
  simp only [isQuote, Bool.or_eq_false_iff, beq_eq_false_iff_ne]
  exact ⟨⟨fun h => h1 (h ▸ hb), fun h => h2 (h ▸ hb)⟩, fun h => h3 (h ▸ hb)⟩

theorem openAtEnd_code_char {c : Char} (hslash : c ≠ '/') (hquote : Nesting.isQuote c = false)
    (bs : List UInt8) : openAtEnd .code (String.utf8EncodeChar c ++ bs) = openAtEnd .code bs :=
  openAtEnd_append (fun _ hb _ => openAtEnd_code_plain
    (fun h => ascii_notMem_utf8EncodeChar (by decide) hslash (h ▸ hb))
    (isQuote_utf8 hquote hb) _) bs

theorem openAtEnd_comment_char {c : Char} (hstar : c ≠ '*') (bs : List UInt8) :
    openAtEnd .comment (String.utf8EncodeChar c ++ bs) = openAtEnd .comment bs :=
  openAtEnd_append (fun _ hb _ => openAtEnd_comment_plain
    (fun h => ascii_notMem_utf8EncodeChar (by decide) hstar (h ▸ hb)) _) bs

theorem openAtEnd_literal_char {quote c : Char} (hquote : quote.toNat < 128) (hescape : c ≠ '\\')
    (hne : c ≠ quote) (bs : List UInt8) :
    openAtEnd (.literal (ascii quote)) (String.utf8EncodeChar c ++ bs) =
      openAtEnd (.literal (ascii quote)) bs :=
  openAtEnd_append (fun _ hb _ => openAtEnd_literal_plain
    (fun h => ascii_notMem_utf8EncodeChar (by decide) hescape (h ▸ hb))
    (ne_of_mem_of_not_mem hb (ascii_notMem_utf8EncodeChar hquote hne)) _) bs

theorem openAtEnd_quote_char {c : Char} (hquote : Nesting.isQuote c = true) (bs : List UInt8) :
    openAtEnd .code (String.utf8EncodeChar c ++ bs) = openAtEnd (.literal (ascii c)) bs := by
  rcases Nesting.isQuote_cases hquote with rfl | rfl | rfl <;>
    exact openAtEnd_code_quote (by decide) (by decide) bs

/-- After a backslash in a literal, a whole character is passed over. -/
theorem openAtEnd_escape_char {quote : Char} (hquote : quote.toNat < 128) (c : Char)
    (bs : List UInt8) :
    openAtEnd (.literal (ascii quote)) (ascii '\\' :: (String.utf8EncodeChar c ++ bs)) =
      openAtEnd (.literal (ascii quote)) bs := by
  obtain ⟨b, rest, hbytes, hrest⟩ := utf8EncodeChar_eq_cons c
  rw [hbytes, List.cons_append, openAtEnd, if_pos (by decide)]
  refine openAtEnd_append (fun x hx bs => openAtEnd_literal_plain ?_ ?_ bs) bs
  · rintro rfl
    exact absurd (hrest _ hx) (by decide)
  · rintro rfl
    have hbyte : (ascii quote).toNat = quote.toNat % 256 := UInt8.toNat_ofNat'
    have := hrest _ hx
    omega

theorem isQuote_lt {c : Char} (h : Nesting.isQuote c = true) : c.toNat < 128 := by
  rcases Nesting.isQuote_cases h with rfl | rfl | rfl <;> decide

/-- One character: the reader of bytes comes to what the next reading stands for. -/
theorem openAtEnd_next {reading : Reading} (hquotes : reading.QuotesOnly) (c : Char)
    (bs : List UInt8) :
    openAtEnd reading.pending.1 (reading.pending.2 ++ (String.utf8EncodeChar c ++ bs)) =
      openAtEnd (reading.next c).pending.1 ((reading.next c).pending.2 ++ bs) := by
  have hstarChar : String.utf8EncodeChar '*' = [ascii '*'] := rfl
  cases reading with
  | code =>
    by_cases hslash : c = '/'
    · subst hslash; rfl
    · by_cases hquote : Nesting.isQuote c = true
      · simpa [Reading.pending, Reading.next, hslash, hquote] using openAtEnd_quote_char hquote bs
      · simpa [Reading.pending, Reading.next, hslash, hquote] using
          openAtEnd_code_char hslash (by simpa using hquote) bs
  | slash =>
    by_cases hslash : c = '/'
    · subst hslash; rfl
    by_cases hstar : c = '*'
    · subst hstar
      show openAtEnd .code (ascii '/' :: ascii '*' :: bs) = openAtEnd .comment bs
      rw [openAtEnd, if_neg (by decide), if_pos (by decide)]
    · -- The pending slash opens no comment, so that the character is read as in code.
      obtain ⟨b, rest, hbytes, _⟩ := utf8EncodeChar_eq_cons c
      have hb : b ∈ String.utf8EncodeChar c := hbytes ▸ List.mem_cons_self
      have hb1 : b ≠ ascii '/' :=
        ne_of_mem_of_not_mem hb (ascii_notMem_utf8EncodeChar (by decide) hslash)
      have hb2 : b ≠ ascii '*' :=
        ne_of_mem_of_not_mem hb (ascii_notMem_utf8EncodeChar (by decide) hstar)
      have hskip : openAtEnd .code (ascii '/' :: (String.utf8EncodeChar c ++ bs)) =
          openAtEnd .code (String.utf8EncodeChar c ++ bs) := by
        rw [hbytes, List.cons_append, openAtEnd]
        simp [hb1, hb2, show isQuote (ascii '/') = false from rfl]
      by_cases hquote : Nesting.isQuote c = true
      · simpa [Reading.pending, Reading.next, hslash, hstar, hquote] using
          hskip.trans (openAtEnd_quote_char hquote bs)
      · simpa [Reading.pending, Reading.next, hslash, hstar, hquote] using
          hskip.trans (openAtEnd_code_char hslash (by simpa using hquote) bs)
  | literal quote =>
    by_cases hescape : c = '\\'
    · subst hescape; rfl
    by_cases hquote : c = quote
    · subst hquote
      have hne : ascii c ≠ ascii '\\' := by
        rcases Nesting.isQuote_cases hquotes with rfl | rfl | rfl <;> decide
      have hbytes : String.utf8EncodeChar c = [ascii c] := by
        rcases Nesting.isQuote_cases hquotes with rfl | rfl | rfl <;> rfl
      simpa [Reading.pending, Reading.next, hescape, hbytes] using openAtEnd_literal_close hne bs
    · simpa [Reading.pending, Reading.next, hescape, hquote] using
        openAtEnd_literal_char (isQuote_lt hquotes) hescape hquote bs
  | escape quote => exact openAtEnd_escape_char (isQuote_lt hquotes) c bs
  | lineComment => rfl
  | comment =>
    by_cases hstar : c = '*'
    · subst hstar; rfl
    · simpa [Reading.pending, Reading.next, hstar] using openAtEnd_comment_char hstar bs
  | star =>
    by_cases hslash : c = '/'
    · subst hslash
      show openAtEnd .comment (ascii '*' :: ascii '/' :: bs) = openAtEnd .code bs
      rw [openAtEnd, if_pos (by decide)]
    · obtain ⟨b, rest, hbytes, _⟩ := utf8EncodeChar_eq_cons c
      have hb : b ≠ ascii '/' := ne_of_mem_of_not_mem (hbytes ▸ List.mem_cons_self)
        (ascii_notMem_utf8EncodeChar (by decide) hslash)
      have hskip : openAtEnd .comment (ascii '*' :: (String.utf8EncodeChar c ++ bs)) =
          openAtEnd .comment (String.utf8EncodeChar c ++ bs) := by
        rw [hbytes, List.cons_append, openAtEnd]
        simp [hb]
      by_cases hstar : c = '*'
      · subst hstar
        simpa [Reading.pending, Reading.next, hstarChar] using hskip
      · simpa [Reading.pending, Reading.next, hslash, hstar] using
          hskip.trans (openAtEnd_comment_char hstar bs)

theorem openAtEnd_pending {reading : Reading} (hquotes : reading.QuotesOnly) (text : Text) :
    openAtEnd reading.pending.1 (reading.pending.2 ++ text.utf8) = (reading.after text).isOpen := by
  induction text generalizing reading with
  | nil => cases reading <;> rfl
  | cons c text ih =>
    rw [Text.utf8, List.flatMap_cons, openAtEnd_next hquotes, Reading.after_cons]
    exact ih (Reading.quotesOnly_next hquotes c)

/-- A comment is open after a line if it is after reading its characters. -/
theorem openAfter_eq (isOpen : Bool) (line : Text) :
    openAfter isOpen line = ((Reading.ofOpen isOpen).after line).isOpen := by
  rw [← openAtEnd_pending (Reading.quotesOnly_ofOpen isOpen)]
  cases isOpen <;> rfl

/-! ## What opens and closes a comment -/

namespace Reading

/-- What keeps a block comment open: `*/` stands neither in the text nor across its start. -/
theorem isOpen_after_of_isOpen {reading : Reading} {text : Text}
    (h : reading = comment ∧ ¬ ['*', '/'] <:+: text ∨
      reading = star ∧ ¬ ['*', '/'] <:+: '*' :: text) :
    (reading.after text).isOpen = true := by
  induction text generalizing reading with
  | nil => rcases h with ⟨rfl, _⟩ | ⟨rfl, _⟩ <;> rfl
  | cons c text ih =>
    rcases h with ⟨rfl, h⟩ | ⟨rfl, h⟩
    · by_cases hc : c = '*'
      · subst hc
        exact ih (.inr ⟨rfl, h⟩)
      · refine ih (.inl ⟨by simp [next, hc], fun hin => h ?_⟩)
        exact List.infix_cons hin
    · have htext : ¬ ['*', '/'] <:+: c :: text := fun hin => h (List.infix_cons hin)
      have hslash : c ≠ '/' := by
        rintro rfl
        exact h ⟨[], text, rfl⟩
      by_cases hc : c = '*'
      · subst hc
        exact ih (.inr ⟨rfl, htext⟩)
      · refine ih (.inl ⟨by simp [next, hslash, hc], fun hin => htext ?_⟩)
        exact List.infix_cons hin

theorem eq_slash_of_next {reading : Reading} {c : Char} (h : reading.next c = slash) :
    c = '/' := by
  cases reading <;> simp only [next, reduceCtorEq] at h
  all_goals split_ifs at h
  all_goals assumption

/-- Only a star after a slash opens a comment. -/
theorem eq_slash_of_isOpen_next {reading : Reading} {c : Char} (hclosed : reading.isOpen = false)
    (h : (reading.next c).isOpen = true) : reading = slash ∧ c = '*' := by
  cases reading <;> simp only [next, isOpen, Bool.false_eq_true, Bool.true_eq_false] at h hclosed
  all_goals split_ifs at h
  all_goals first | exact absurd h Bool.false_ne_true | exact ⟨rfl, by assumption⟩

/-- What opens no block comment: `/*` stands neither in the text nor across its start. -/
theorem not_isOpen_after {reading : Reading} {text : Text} (hopen : reading.isOpen = false)
    (h : ¬ ['/', '*'] <:+: text) (hslash : reading = slash → ¬ ['/', '*'] <:+: '/' :: text) :
    (reading.after text).isOpen = false := by
  induction text generalizing reading with
  | nil => exact hopen
  | cons c text ih =>
    have htext : ¬ ['/', '*'] <:+: text := fun hin => h (List.infix_cons hin)
    refine ih ?_ htext fun hnext => eq_slash_of_next hnext ▸ h
    by_contra hnext
    obtain ⟨hreading, rfl⟩ := eq_slash_of_isOpen_next hopen (by simpa using hnext)
    exact hslash hreading ⟨[], text, rfl⟩

theorem code_after_blank {blanks : Text} (h : IsBlankText blanks) : code.after blanks = code := by
  induction blanks with
  | nil => rfl
  | cons c blanks ih =>
    have hc := h c List.mem_cons_self
    have hslash : c ≠ '/' := by rintro rfl; exact absurd hc (by decide)
    have hquote : Nesting.isQuote c = false := by
      by_contra hq
      rcases Nesting.isQuote_cases (by simpa using hq) with rfl | rfl | rfl <;>
        exact absurd hc (by decide)
    rw [after_cons, next, if_neg hslash, hquote]
    exact ih fun x hx => h x (List.mem_cons_of_mem _ hx)

theorem comment_after_blank {blanks : Text} (h : IsBlankText blanks) :
    comment.after blanks = comment := by
  induction blanks with
  | nil => rfl
  | cons c blanks ih =>
    have hstar : c ≠ '*' := by
      rintro rfl
      exact absurd (h '*' List.mem_cons_self) (by decide)
    rw [after_cons, next, if_neg hstar]
    exact ih fun x hx => h x (List.mem_cons_of_mem _ hx)

end Reading

/-- A line without `*/` leaves a comment open. -/
theorem openAfter_true {line : Text} (h : ¬ ['*', '/'] <:+: line) : openAfter true line = true := by
  rw [openAfter_eq]
  exact Reading.isOpen_after_of_isOpen (.inl ⟨rfl, h⟩)

/-- A line without `/*` opens no comment. -/
theorem openAfter_false {line : Text} (h : ¬ ['/', '*'] <:+: line) :
    openAfter false line = false := by
  rw [openAfter_eq]
  exact Reading.not_isOpen_after rfl h (by simp [Reading.ofOpen])

/-- A line that begins with `/*`, past blanks, and has no `*/` leaves a comment open. -/
theorem openAfter_of_opener {lead rest : Text} (hlead : IsBlankText lead)
    (h : ¬ ['*', '/'] <:+: lead ++ '/' :: '*' :: rest) (isOpen : Bool) :
    openAfter isOpen (lead ++ '/' :: '*' :: rest) = true := by
  cases isOpen with
  | true => exact openAfter_true h
  | false =>
    have hrest : ¬ ['*', '/'] <:+: rest := fun hin =>
      h (((hin.trans (List.suffix_cons '*' rest).isInfix).trans
        (List.suffix_cons '/' _).isInfix).trans (List.suffix_append lead _).isInfix)
    rw [openAfter_eq, Reading.after_append]
    show (((Reading.code.after lead).next '/').next '*' |>.after rest).isOpen = true
    rw [Reading.code_after_blank hlead]
    exact Reading.isOpen_after_of_isOpen (.inl ⟨rfl, hrest⟩)

/-- A line with `*/` alone, between blanks, ends a comment. -/
theorem openAfter_of_closer {lead tail : Text} (hlead : IsBlankText lead)
    (htail : IsBlankText tail) : openAfter true (lead ++ ['*', '/'] ++ tail) = false := by
  rw [openAfter_eq, Reading.after_append, Reading.after_append]
  change ((((Reading.comment.after lead).next '*').next '/').after tail).isOpen = false
  rw [Reading.comment_after_blank hlead]
  change (Reading.code.after tail).isOpen = false
  rw [Reading.code_after_blank htail]
  rfl

/-! ## From line to line -/

/-- Whether a comment is open after some lines, given whether one is open before them. -/
def openAfterLines (isOpen : Bool) (lines : List Text) : Bool := lines.foldl openAfter isOpen

@[simp] theorem openAfterLines_cons (isOpen : Bool) (line : Text) (lines : List Text) :
    openAfterLines isOpen (line :: lines) = openAfterLines (openAfter isOpen line) lines := rfl

theorem openAfterLines_append (isOpen : Bool) (a b : List Text) :
    openAfterLines isOpen (a ++ b) = openAfterLines (openAfterLines isOpen a) b :=
  List.foldl_append

theorem getElem?_startsOpenFrom (isOpen : Bool) {lines : List Text} {index : Nat}
    (hindex : index < lines.length) :
    (startsOpenFrom isOpen lines)[index]? = some (openAfterLines isOpen (lines.take index)) := by
  induction lines generalizing isOpen index with
  | nil => exact absurd hindex (Nat.not_lt_zero _)
  | cons line lines ih =>
    cases index with
    | zero => rfl
    | succ index =>
      rw [startsOpenFrom, List.getElem?_cons_succ, List.take_succ_cons, openAfterLines_cons]
      exact ih _ (Nat.lt_of_succ_lt_succ hindex)

/-- A line begins inside a comment if the lines over it leave one open. -/
theorem getElem?_startsOpen {lines : List Text} {index : Nat} (hindex : index < lines.length) :
    (startsOpen lines)[index]? = some (openAfterLines false (lines.take index)) :=
  getElem?_startsOpenFrom false hindex

end ChangeReview.Comment
