import ChangeReview.JsonValue
import ChangeReview.Proofs.Text.Written
import Mathlib.Algebra.Field.Rat
import Mathlib.Data.List.TakeWhile

/-!
# The tokens of a JSON text

A JSON text is cut into marks, strings, numbers and words, with blanks between them as one likes.
Strings may escape any character, those beyond the basic plane as two halves, and numbers may have a
sign, a fraction and an exponent.

## Main definitions

- `Json.Scalar`, `Json.Token`: the tokens.
- `Json.string?`, `Json.number?`: the reading of a string and of a number.
- `Json.tokens?`: the tokens of a text.
-/

namespace ChangeReview.Json

/-- A value without parts. A number is the rational that it denotes. -/
inductive Scalar where
  | null
  | bool (value : Bool)
  | number (value : ℚ)
  | string (text : Text)

/-- A token of a JSON text. -/
inductive Token where
  | openArray
  | closeArray
  | openObject
  | closeObject
  | colon
  | comma
  | scalar (value : Scalar)

/-! ## Numbers and words -/

/-- The number that a run of digits writes, unless there are none. -/
def digits? (text : Text) : Option Nat :=
  if text ≠ [] ∧ text.all Char.isDigit then some (Nat.ofDigitChars 10 text 0) else none

/-- The number before the point, which does not begin with a zero in vain. -/
def whole? (text : Text) : Option Nat :=
  if text.head? = some '0' ∧ text ≠ ['0'] then none else digits? text

/-- The value of the digits after the point, if there is one. -/
def fraction? : Text → Option ℚ
  | [] => some 0
  | '.' :: digits => (digits? digits).map fun n => n / 10 ^ digits.length
  | _ => none

/-- The power of ten in the exponent, if there is one. -/
def exponent? : Text → Option ℤ
  | [] => some 0
  | _ :: '+' :: digits => (digits? digits).map fun n => n
  | _ :: '-' :: digits => (digits? digits).map fun n => -n
  | _ :: digits => (digits? digits).map fun n => n

/-- Whether the character marks an exponent. -/
def marksExponent (c : Char) : Bool := c == 'e' || c == 'E'

/-- A number without a sign. -/
def unsigned? (text : Text) : Option ℚ := do
  let rest := text.dropWhile Char.isDigit
  let whole ← whole? (text.takeWhile Char.isDigit)
  let fraction ← fraction? (rest.takeWhile (!marksExponent ·))
  let exponent ← exponent? (rest.dropWhile (!marksExponent ·))
  return (whole + fraction) * 10 ^ exponent

/-- A number. -/
def number? : Text → Option ℚ
  | '-' :: rest => (unsigned? rest).map (-·)
  | text => unsigned? text

/-- A value that is written without quotation marks. -/
def word? (text : Text) : Option Scalar :=
  if text = "null".toList then some .null
  else if text = "true".toList then some (.bool true)
  else if text = "false".toList then some (.bool false)
  else (number? text).map .number

/-! ## Strings -/

/-- The value of a hexadecimal digit. -/
def hexValue? (c : Char) : Option Nat :=
  if '0' ≤ c ∧ c ≤ '9' then some (c.toNat - '0'.toNat)
  else if 'a' ≤ c ∧ c ≤ 'f' then some (c.toNat - 'a'.toNat + 10)
  else if 'A' ≤ c ∧ c ≤ 'F' then some (c.toNat - 'A'.toNat + 10)
  else none

/-- The number that four hexadecimal digits write. -/
def unit? (a b c d : Char) : Option Nat := do
  return (((← hexValue? a) * 16 + (← hexValue? b)) * 16 + (← hexValue? c)) * 16 + (← hexValue? d)

/-- The character that stands behind a backslash for one that is escaped. -/
def escaped? : Char → Option Char
  | '\x22' => some '\x22'
  | '\\' => some '\\'
  | '/' => some '/'
  | 'b' => some '\x08'
  | 'f' => some '\x0c'
  | 'n' => some '\n'
  | 'r' => some '\r'
  | 't' => some '\t'
  | _ => none

/-- The codes in a string up to its closing mark, and what follows the mark. There is a code for
each character and for each half of one that is escaped by its number. -/
def codes? : Text → Option (List Nat × Text)
  | [] => none
  | c :: rest =>
    if c = '\x22' then some ([], rest)
    else if c = '\\' then
      match rest with
      | 'u' :: a :: b :: d :: e :: rest =>
        (unit? a b d e).bind fun unit => (codes? rest).map (Prod.map (unit :: ·) id)
      | c :: rest =>
        (escaped? c).bind fun char => (codes? rest).map (Prod.map (char.toNat :: ·) id)
      | [] => none
    else if c.toNat < 0x20 then none
    else (codes? rest).map (Prod.map (c.toNat :: ·) id)

/-- Whether the code is the first half of a character beyond the basic plane. -/
def isHigh (code : Nat) : Bool := 0xD800 ≤ code && code < 0xDC00

/-- Whether the code is the second half of a character beyond the basic plane. -/
def isLow (code : Nat) : Bool := 0xDC00 ≤ code && code < 0xE000

/-- The characters with the given codes, where the two halves of a character stand together. -/
def characters? : List Nat → Option Text
  | [] => some []
  | code :: codes =>
    if isHigh code then
      match codes with
      | low :: codes =>
        if isLow low then
          (characters? codes).map
            (Char.ofNat (0x10000 + (code - 0xD800) * 0x400 + (low - 0xDC00)) :: ·)
        else none
      | [] => none
    else if isLow code then none
    else (characters? codes).map (Char.ofNat code :: ·)

/-- The string whose opening mark has been read, and what follows it. -/
def string? (text : Text) : Option (Text × Text) := do
  let (codes, rest) ← codes? text
  let text ← characters? codes
  return (text, rest)

/-! ## Tokens -/

/-- The blanks of JSON. -/
def isSpace (c : Char) : Bool := c == ' ' || c == '\t' || c == '\n' || c == '\r'

/-- A token of one character. -/
def mark? : Char → Option Token
  | '[' => some .openArray
  | ']' => some .closeArray
  | '\x7b' => some .openObject
  | '\x7d' => some .closeObject
  | ':' => some .colon
  | ',' => some .comma
  | _ => none

/-- A character of a number or a word. -/
def isWordPart (c : Char) : Bool := !(isSpace c || (mark? c).isSome || c == '\x22')

/-- The token at the head of a text, and what follows it. -/
def token? : Text → Option (Token × Text)
  | [] => none
  | c :: rest =>
    match mark? c with
    | some token => some (token, rest)
    | none =>
      if c = '\x22' then (string? rest).map fun (text, after) => (.scalar (.string text), after)
      else if isWordPart c then
        (word? ((c :: rest).takeWhile isWordPart)).map fun value =>
          (.scalar value, (c :: rest).dropWhile isWordPart)
      else none

/-- A string ends before the text does. -/
theorem length_lt_of_codes? {text : Text} {read : List Nat × Text} (h : codes? text = some read) :
    read.2.length < text.length := by
  fun_induction codes? text generalizing read with
  | case1 => cases h
  | case2 =>
    obtain rfl := Option.some.inj h
    exact Nat.lt_succ_self _
  | case3 a b d e rest _ ih =>
    obtain ⟨unit, -, h⟩ := Option.bind_eq_some_iff.mp h
    obtain ⟨found, hfound, rfl⟩ := Option.map_eq_some_iff.mp h
    refine (ih hfound).trans ?_
    simp only [List.length_cons]
    omega
  | case4 c rest _ _ ih =>
    obtain ⟨char, -, h⟩ := Option.bind_eq_some_iff.mp h
    obtain ⟨found, hfound, rfl⟩ := Option.map_eq_some_iff.mp h
    refine (ih hfound).trans ?_
    simp only [List.length_cons]
    omega
  | case5 => cases h
  | case6 => cases h
  | case7 c rest _ _ _ ih =>
    obtain ⟨found, hfound, rfl⟩ := Option.map_eq_some_iff.mp h
    exact (ih hfound).trans (Nat.lt_succ_self _)

theorem length_lt_of_token? {text : Text} {read : Token × Text} (h : token? text = some read) :
    read.2.length < text.length := by
  cases text with
  | nil => cases h
  | cons c rest =>
    rw [token?] at h
    split at h
    · obtain rfl := Option.some.inj h
      exact Nat.lt_succ_self _
    · split at h
      · obtain ⟨found, hfound, rfl⟩ := Option.map_eq_some_iff.mp h
        obtain ⟨codes, hcodes, hfound⟩ := Option.bind_eq_some_iff.mp hfound
        obtain ⟨characters, -, hfound⟩ := Option.bind_eq_some_iff.mp hfound
        obtain rfl := Option.some.inj hfound
        exact (length_lt_of_codes? hcodes).trans (Nat.lt_succ_self _)
      · split at h
        · next hpart =>
          obtain ⟨value, -, rfl⟩ := Option.map_eq_some_iff.mp h
          rw [List.dropWhile_cons_of_pos hpart]
          exact Nat.lt_succ_of_le (List.dropWhile_suffix _).length_le
        · cases h

/-- The tokens of a text. -/
def tokens? (text : Text) : Option (List Token) :=
  match text with
  | [] => some []
  | c :: rest =>
    if isSpace c then tokens? rest
    else
      match _hread : token? (c :: rest) with
      | some (token, after) => (tokens? after).map (token :: ·)
      | none => none
termination_by text.length
decreasing_by
  · exact Nat.lt_succ_self _
  · exact length_lt_of_token? _hread

/-! ## Written strings -/

variable {text rest : Text} {c : Char}

theorem hexValue?_hexDigit {n : Nat} (h : n < 16) : hexValue? (JsonValue.hexDigit n) = some n := by
  have hall : ∀ n < 16, hexValue? (JsonValue.hexDigit n) = some n := by decide
  exact hall n h

theorem codes?_quote (rest : Text) : codes? ('\x22' :: rest) = some ([], rest) := by
  rw [codes?.eq_def]
  exact if_pos rfl

/-- A character behind a backslash is read, unless it announces a number. -/
theorem codes?_escaped {letter char : Char} (h : escaped? letter = some char) (rest : Text) :
    codes? ('\\' :: letter :: rest) = (codes? rest).map (Prod.map (char.toNat :: ·) id) := by
  rw [codes?.eq_def]
  dsimp only
  rw [if_neg (by decide), if_pos rfl]
  split
  · next heq =>
    -- No character is escaped by the letter that announces a number.
    obtain ⟨rfl, -⟩ := List.cons.inj heq
    cases h
  · next heq =>
    obtain ⟨rfl, rfl⟩ := List.cons.inj heq
    rw [h, Option.bind_some]
  · next heq => cases heq

theorem codes?_unit {a b d e : Char} {unit : Nat} (h : unit? a b d e = some unit) (rest : Text) :
    codes? ('\\' :: 'u' :: a :: b :: d :: e :: rest) =
      (codes? rest).map (Prod.map (unit :: ·) id) := by
  rw [codes?.eq_def]
  dsimp only
  rw [if_neg (by decide), if_pos rfl]
  change (unit? a b d e).bind _ = _
  rw [h, Option.bind_some]

theorem codes?_of_ne (hquote : c ≠ '\x22') (hbackslash : c ≠ '\\') (hcontrol : ¬ c.toNat < 0x20)
    (rest : Text) : codes? (c :: rest) = (codes? rest).map (Prod.map (c.toNat :: ·) id) := by
  rw [codes?.eq_def]
  dsimp only
  rw [if_neg hquote, if_neg hbackslash, if_neg hcontrol]

/-- A control character is escaped by its number, of which the first two digits are zero. -/
theorem unit?_hexDigit (h : c.toNat < 0x20) :
    unit? '0' '0' (JsonValue.hexDigit (c.toNat / 16)) (JsonValue.hexDigit (c.toNat % 16)) =
      some c.toNat := by
  have hzero : hexValue? '0' = some 0 := by decide
  simp only [unit?, hzero, hexValue?_hexDigit (show c.toNat / 16 < 16 by omega),
    hexValue?_hexDigit (show c.toNat % 16 < 16 by omega), Option.bind_eq_bind, Option.bind_some]
  exact congrArg some (by omega)

/-- A character is read as it was written, be it escaped or not. -/
theorem codes?_escape (c : Char) (rest : Text) :
    codes? (JsonValue.escape c ++ rest) = (codes? rest).map (Prod.map (c.toNat :: ·) id) := by
  rw [JsonValue.escape]
  simp only [beq_iff_eq]
  split_ifs with hquote hbackslash _ _ _ _ _ hcontrol
  any_goals
    subst c
    exact codes?_escaped (by decide) rest
  · exact codes?_unit (unit?_hexDigit hcontrol) rest
  · exact codes?_of_ne hquote hbackslash hcontrol rest

theorem codes?_flatMap_escape (text rest : Text) :
    codes? (text.flatMap JsonValue.escape ++ '\x22' :: rest) =
      some (text.map Char.toNat, rest) := by
  induction text with
  | nil => exact codes?_quote rest
  | cons c text ih =>
    rw [List.flatMap_cons, List.append_assoc, codes?_escape, ih]
    rfl

theorem characters?_cons {code : Nat} (hhigh : isHigh code = false) (hlow : isLow code = false)
    (codes : List Nat) :
    characters? (code :: codes) = (characters? codes).map (Char.ofNat code :: ·) := by
  rw [characters?.eq_def]
  dsimp only
  rw [if_neg (Bool.eq_false_iff.mp hhigh), if_neg (Bool.eq_false_iff.mp hlow)]

theorem characters?_map_toNat (text : Text) : characters? (text.map Char.toNat) = some text := by
  induction text with
  | nil => rfl
  | cons c text ih =>
    -- No character has the code of a half.
    have hvalid : c.toNat < 0xD800 ∨ 0xDFFF < c.toNat ∧ c.toNat < 0x110000 := c.valid
    have hhigh : isHigh c.toNat = false := by
      rw [isHigh, Bool.and_eq_false_iff, decide_eq_false_iff_not, decide_eq_false_iff_not]
      omega
    have hlow : isLow c.toNat = false := by
      rw [isLow, Bool.and_eq_false_iff, decide_eq_false_iff_not, decide_eq_false_iff_not]
      omega
    rw [List.map_cons, characters?_cons hhigh hlow, ih, Option.map_some, Char.ofNat_toNat]

/-- A quoted text is read up to its closing mark. -/
theorem string?_flatMap_escape (text rest : Text) :
    string? (text.flatMap JsonValue.escape ++ '\x22' :: rest) = some (text, rest) := by
  rw [string?, codes?_flatMap_escape, Option.bind_eq_bind, Option.bind_some]
  dsimp only
  rw [characters?_map_toNat]
  rfl

/-- Two halves are one character, and a slash may be escaped. -/
example : string? "\\ud83d\\ude00\\/\\u0041\" rest" = some ("😀/A".toList, " rest".toList) := by
  decide +kernel

/-! ## Written numbers -/

theorem head?_ofNat_ne_zero {n : Nat} (h : 0 < n) : (Text.ofNat n).head? ≠ some '0' := by
  induction n using Nat.strong_induction_on with
  | _ n ih =>
    rw [Text.ofNat, Nat.toDigits_eq_if (by decide)]
    split
    · next hlt =>
      have hall : ∀ d < 10, 0 < d → [d.digitChar].head? ≠ some '0' := by decide
      exact hall n hlt h
    · next hle =>
      have hhead := ih (n / 10) (by omega) (by omega)
      obtain ⟨d, digits, hdigits⟩ := List.exists_cons_of_ne_nil (Nat.toDigits_ne_nil (n := n / 10))
      rw [Text.ofNat, hdigits] at hhead
      rwa [hdigits]

theorem digits?_ofNat (n : Nat) : digits? (Text.ofNat n) = some n := by
  rw [digits?, if_pos]
  · exact congrArg some Nat.ofDigitChars_ten_toDigits
  · exact ⟨Nat.toDigits_ne_nil, List.all_eq_true.mpr fun c => Text.isDigit_of_mem_ofNat⟩

/-- No zero stands at the head of a written number but for zero itself. -/
theorem whole?_ofNat (n : Nat) : whole? (Text.ofNat n) = some n := by
  rw [whole?, if_neg, digits?_ofNat]
  rintro ⟨hhead, hne⟩
  rcases Nat.eq_zero_or_pos n with rfl | hpos
  · exact hne rfl
  · exact head?_ofNat_ne_zero hpos hhead

theorem unsigned?_ofNat (n : Nat) : unsigned? (Text.ofNat n) = some (n : ℚ) := by
  have hdigits : ∀ c ∈ Text.ofNat n, c.isDigit = true := fun c => Text.isDigit_of_mem_ofNat
  rw [unsigned?, List.takeWhile_eq_self_iff.mpr hdigits, List.dropWhile_eq_nil_iff.mpr hdigits,
    whole?_ofNat]
  simp [fraction?, exponent?]

theorem number?_ofNat (n : Nat) : number? (Text.ofNat n) = some (n : ℚ) := by
  obtain ⟨d, digits, hdigits, hd⟩ := Text.exists_ofNat n
  rw [hdigits, number?, ← hdigits, unsigned?_ofNat]
  rintro rest h
  obtain ⟨rfl, -⟩ := List.cons.inj h
  cases hd

example : number? "-12.5e+1" = some (-125) := by decide +kernel

/-- A written number is none of the words. -/
theorem word?_ofNat (n : Nat) : word? (Text.ofNat n) = some (.number n) := by
  obtain ⟨d, digits, hdigits, hd⟩ := Text.exists_ofNat n
  have hword {letter : Char} {letters : Text} (hletter : letter.isDigit = false) :
      Text.ofNat n ≠ letter :: letters := by
    intro h
    rw [hdigits] at h
    obtain ⟨rfl, -⟩ := List.cons.inj h
    rw [hletter] at hd
    cases hd
  rw [word?, if_neg, if_neg, if_neg, number?_ofNat]
  · rfl
  all_goals exact hword (by decide)

/-! ## Written tokens -/

theorem tokens?_space (h : isSpace c = true) (rest : Text) :
    tokens? (c :: rest) = tokens? rest := by
  rw [tokens?, if_pos h]

theorem tokens?_spaces {blanks : Text} (h : ∀ c ∈ blanks, isSpace c = true) (rest : Text) :
    tokens? (blanks ++ rest) = tokens? rest := by
  induction blanks with
  | nil => rfl
  | cons c blanks ih =>
    rw [List.forall_mem_cons] at h
    rw [List.cons_append, tokens?_space h.1, ih h.2]

theorem tokens?_of_token? {token : Token} (hspace : isSpace c = false)
    (h : token? (c :: rest) = some (token, text)) :
    tokens? (c :: rest) = (tokens? text).map (token :: ·) := by
  rw [tokens?, if_neg (Bool.eq_false_iff.mp hspace)]
  split
  · next heq =>
    rw [h] at heq
    cases heq
    rfl
  · next heq =>
    rw [h] at heq
    cases heq

theorem isSpace_of_mark? {token : Token} (h : mark? c = some token) : isSpace c = false := by
  by_contra hspace
  rw [Bool.not_eq_false, isSpace, Bool.or_eq_true, Bool.or_eq_true, Bool.or_eq_true, beq_iff_eq,
    beq_iff_eq, beq_iff_eq, beq_iff_eq] at hspace
  rcases hspace with ((rfl | rfl) | rfl) | rfl <;> cases h

theorem tokens?_mark {token : Token} (h : mark? c = some token) (rest : Text) :
    tokens? (c :: rest) = (tokens? rest).map (token :: ·) := by
  refine tokens?_of_token? (isSpace_of_mark? h) ?_
  rw [token?, h]

theorem tokens?_quote (text rest : Text) :
    tokens? (JsonValue.quote text ++ rest) =
      (tokens? rest).map (.scalar (.string text) :: ·) := by
  rw [JsonValue.quote, List.append_assoc, List.cons_append, List.singleton_append]
  refine tokens?_of_token? (by decide) ?_
  rw [token?]
  change Option.map _ (string? (text.flatMap JsonValue.escape ++ '\x22' :: rest)) = _
  rw [string?_flatMap_escape, Option.map_some]

theorem isWordPart_of_isDigit (h : c.isDigit = true) : isWordPart c = true := by
  have hall : ∀ n ≤ 57, 48 ≤ n → isWordPart (Char.ofNat n) = true := by decide
  simp only [Char.isDigit, Bool.and_eq_true, decide_eq_true_eq, UInt32.le_iff_toNat_le] at h
  have hpart := hall c.toNat h.2 h.1
  rwa [Char.ofNat_toNat] at hpart

theorem isWordPart_iff :
    isWordPart c = true ↔ isSpace c = false ∧ mark? c = none ∧ c ≠ '\x22' := by
  rw [isWordPart, Bool.not_eq_true', Bool.or_eq_false_iff, Bool.or_eq_false_iff,
    beq_eq_false_iff_ne, Option.isSome_eq_false_iff, Option.isNone_iff_eq_none, and_assoc]

/-- A written number is read up to a character that cannot go on with it. -/
theorem tokens?_ofNat (n : Nat) (hrest : ∀ c, rest.head? = some c → isWordPart c = false) :
    tokens? (Text.ofNat n ++ rest) = (tokens? rest).map (.scalar (.number n) :: ·) := by
  obtain ⟨d, digits, hdigits, hd⟩ := Text.exists_ofNat n
  have hparts : ∀ c ∈ Text.ofNat n, isWordPart c = true := fun c hc =>
    isWordPart_of_isDigit (Text.isDigit_of_mem_ofNat hc)
  have htake := Text.takeWhile_append_of_head hparts hrest
  have hdrop := Text.dropWhile_append_of_head hparts hrest
  have hpart := isWordPart_of_isDigit hd
  obtain ⟨hspace, hmark, hquote⟩ := isWordPart_iff.mp hpart
  rw [hdigits, List.cons_append] at htake hdrop ⊢
  refine tokens?_of_token? hspace ?_
  rw [token?, hmark]
  dsimp only
  rw [if_neg hquote, if_pos hpart, htake, hdrop, ← hdigits, word?_ofNat, Option.map_some]

end ChangeReview.Json
