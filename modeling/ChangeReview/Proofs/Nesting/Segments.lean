import ChangeReview.Proofs.Nesting.Replacement

/-!
# Segments between commas

Nothing is lost when a text is cut at its commas: `Nesting.joinWith_splitCommas`. The parts are the
written segments if brackets and quotes are closed in each of them and no other comma stands outside
both, as `Nesting.splitCommas_joinWith` says. The condition on the brackets is about heights, the
numbers of brackets that the beginnings of a segment leave open.
-/

namespace ChangeReview.Nesting

/-- A character outside quotes, or a quoted part. -/
inductive Token where
  | bare (c : Char)
  | quoted (quote : Char) (content : Text)
  deriving DecidableEq

namespace Token

/-- The characters of the token, quotes included. -/
def text : Token → Text
  | bare c => [c]
  | quoted quote content => quote :: (content ++ [quote])

/-- The character that the text behind the token has before it. -/
def last : Token → Char
  | bare c => c
  | quoted quote _ => quote

/-- Without backslashes, a quoted part ends at the first quote like the one that opens it. -/
def IsWritten : Token → Prop
  | bare c => isQuote c = false ∧ c ≠ '\\'
  | quoted quote content => isQuote quote = true ∧ quote ∉ content ∧ '\\' ∉ content

instance : DecidablePred IsWritten := fun token => by
  cases token <;> unfold IsWritten <;> infer_instance

/-- How many brackets the token opens, where one that it closes counts as minus one. -/
def rise (before : Char) : Token → Int
  | bare c => if isOpener c then 1 else if isCloser before c then -1 else 0
  | quoted _ _ => 0

end Token

/-- The number of brackets that tokens leave open, negative if they close more than they open. -/
def height (before : Char) : List Token → Int
  | [] => 0
  | token :: tokens => token.rise before + height token.last tokens

/-- The tokens of a text in which brackets are balanced and commas enclosed. -/
structure IsSegmentOf (tokens : List Token) (text : Text) : Prop where
  text_eq : tokens.flatMap Token.text = text
  written : ∀ token ∈ tokens, token.IsWritten
  /-- No bracket is closed that is not open. -/
  nonneg : ∀ n ≤ tokens.length, 0 ≤ height '\x00' (tokens.take n)
  total : height '\x00' tokens = 0
  /-- Outside quotes a comma stands in brackets. -/
  comma : ∀ n < tokens.length, tokens[n]? = some (.bare ',') → 0 < height '\x00' (tokens.take n)

instance (tokens : List Token) (text : Text) : Decidable (IsSegmentOf tokens text) :=
  decidable_of_iff (tokens.flatMap Token.text = text ∧ (∀ token ∈ tokens, token.IsWritten) ∧
      (∀ n ≤ tokens.length, 0 ≤ height '\x00' (tokens.take n)) ∧ height '\x00' tokens = 0 ∧
      ∀ n < tokens.length, tokens[n]? = some (.bare ',') → 0 < height '\x00' (tokens.take n))
    ⟨fun ⟨htext, hwritten, hnonneg, htotal, hcomma⟩ => ⟨htext, hwritten, hnonneg, htotal, hcomma⟩,
      fun h => ⟨h.1, h.2, h.3, h.4, h.5⟩⟩

/-- A text whose quotes and brackets are closed and whose commas all stand in quotes or brackets. -/
def IsSegment (text : Text) : Prop := ∃ tokens, IsSegmentOf tokens text

variable {before c : Char} {depth : Nat} {quote : Option Char} {text : Text}
  {token : Token} {tokens : List Token}

/-! ## Joining the parts -/

theorem joinWith_consFirst {parts : List Text} (h : parts ≠ []) :
    Text.joinWith [','] (consFirst c parts) = c :: Text.joinWith [','] parts := by
  obtain ⟨part, parts, rfl⟩ := List.exists_cons_of_ne_nil h
  cases parts <;> rfl

theorem joinWith_nil_cons {parts : List Text} (h : parts ≠ []) :
    Text.joinWith [','] ([] :: parts) = ',' :: Text.joinWith [','] parts := by
  obtain ⟨part, parts, rfl⟩ := List.exists_cons_of_ne_nil h
  rfl

theorem joinWith_commasFrom (before : Char) (depth : Nat) (quote : Option Char) (text : Text) :
    Text.joinWith [','] (commasFrom before depth quote text) = text := by
  induction text generalizing before depth quote with
  | nil => cases quote <;> rfl
  | cons c text ih =>
    cases quote with
    | some quote =>
      rw [commasFrom, joinWith_consFirst (commasFrom_ne_nil _ _ _ _), ih]
    | none =>
      rw [commasFrom]
      split_ifs with hquote hcomma
      · rw [joinWith_consFirst (commasFrom_ne_nil _ _ _ _), ih]
      · obtain ⟨rfl, _⟩ : c = ',' ∧ depth = 0 := by simpa using hcomma
        rw [joinWith_nil_cons (commasFrom_ne_nil _ _ _ _), ih]
      · rw [joinWith_consFirst (commasFrom_ne_nil _ _ _ _), ih]

/-- Whatever the text, its parts with commas between them are the text. -/
theorem joinWith_splitCommas (text : Text) : Text.joinWith [','] (splitCommas text) = text :=
  joinWith_commasFrom ..

/-! ## Reading a token -/

theorem step_eq_of_rise {final : Nat} (h : (final : Int) = depth + (Token.bare c).rise before) :
    step before c depth = final := by
  simp only [Token.rise] at h
  unfold step
  split_ifs at h ⊢ <;> omega

/-- The search for commas takes a token into the part and goes on at the depth to which it rises. -/
theorem commasFrom_token {final : Nat} (hwritten : token.IsWritten)
    (hcomma : token = .bare ',' → 0 < depth) (hfinal : (final : Int) = depth + token.rise before)
    (rest : Text) :
    commasFrom before depth none (token.text ++ rest) =
      token.text.foldr consFirst (commasFrom token.last final none rest) := by
  cases token with
  | bare c =>
    have hcut : ¬ (c == ',' && depth == 0) = true := by
      intro h
      obtain ⟨rfl, rfl⟩ : c = ',' ∧ depth = 0 := by simpa using h
      exact absurd (hcomma rfl) (Nat.lt_irrefl 0)
    rw [Token.text, List.singleton_append, commasFrom, hwritten.1, if_neg Bool.false_ne_true,
      if_neg hcut, step_eq_of_rise hfinal]
    rfl
  | quoted quote content =>
    obtain ⟨hquote, hcontent, hbackslash⟩ := hwritten
    have hbody := isLiteralBody_of_notMem hcontent hbackslash
    obtain rfl : final = depth := by
      simp only [Token.rise, Int.add_zero] at hfinal
      exact Int.ofNat.inj hfinal
    have hlast : content.getLast? ≠ some '\\' := fun hlast =>
      hbackslash (List.mem_of_getLast? hlast)
    rw [Token.text, commasFrom_literal hquote hbody, if_neg hlast]
    rfl

/-- Tokens are taken into one part if no beginning of them falls below depth zero and no comma of them
stands there. -/
theorem commasFrom_tokens (hwritten : ∀ token ∈ tokens, token.IsWritten)
    (hnonneg : ∀ n ≤ tokens.length, 0 ≤ depth + height before (tokens.take n))
    (hcomma : ∀ n < tokens.length, tokens[n]? = some (.bare ',') →
      0 < depth + height before (tokens.take n)) :
    ∃ last, ∃ final : Nat, (final : Int) = depth + height before tokens ∧
      ∀ rest, commasFrom before depth none (tokens.flatMap Token.text ++ rest) =
        (tokens.flatMap Token.text).foldr consFirst (commasFrom last final none rest) := by
  induction tokens generalizing before depth with
  | nil => exact ⟨before, depth, (Int.add_zero _).symm, fun _ => rfl⟩
  | cons token tokens ih =>
    obtain ⟨htoken, hwritten⟩ := List.forall_mem_cons.mp hwritten
    -- The depth behind the first token, from where the rest is read.
    obtain ⟨next, hnext⟩ : ∃ next : Nat, (next : Int) = depth + token.rise before := by
      have hrise := hnonneg 1 (Nat.succ_le_succ (Nat.zero_le _))
      simp only [List.take_succ_cons, List.take_zero, height, Int.add_zero] at hrise
      exact ⟨_, Int.toNat_of_nonneg hrise⟩
    have hheight (front : List Token) :
        (next : Int) + height token.last front = depth + height before (token :: front) := by
      rw [height, hnext]
      omega
    have hfirst : token = .bare ',' → 0 < depth := by
      rintro rfl
      have hpos := hcomma 0 (Nat.succ_pos _) rfl
      simpa [height] using hpos
    obtain ⟨last, final, hfinal, hrest⟩ := @ih token.last next hwritten
      (fun n hn => by
        rw [hheight]
        exact hnonneg (n + 1) (Nat.succ_le_succ hn))
      (fun n hn htoken => by
        rw [hheight]
        exact hcomma (n + 1) (Nat.succ_lt_succ hn) htoken)
    refine ⟨last, final, hfinal.trans (hheight tokens), fun rest => ?_⟩
    rw [List.flatMap_cons, List.append_assoc, commasFrom_token htoken hfirst hnext, hrest,
      List.foldr_append]

/-! ## Reading segments -/

theorem IsSegment.passes (h : IsSegment text) (hbefore : before ≠ '=') :
    ∃ last, Passes before text last none := by
  obtain ⟨tokens, rfl, hwritten, hnonneg, htotal, hcomma⟩ := h
  obtain ⟨last, final, hfinal, hpasses⟩ := @commasFrom_tokens '\x00' 0 tokens hwritten
    (by simpa using hnonneg) (by simpa using hcomma)
  obtain rfl : final = 0 := by omega
  refine ⟨last, fun rest => ?_⟩
  rw [commasFrom_congr hbefore (show '\x00' ≠ '=' by decide), hpasses]

/-- The comma behind a segment is remembered as the character before the next one, where it makes no
arrow. -/
theorem commasFrom_joinWith {segments : List Text} (hne : segments ≠ [])
    (h : ∀ segment ∈ segments, IsSegment segment) (hbefore : before ≠ '=') :
    commasFrom before 0 none (Text.joinWith [','] segments) = segments := by
  induction segments generalizing before with
  | nil => exact absurd rfl hne
  | cons segment segments ih =>
    obtain ⟨hsegment, hrest⟩ := List.forall_mem_cons.mp h
    obtain ⟨last, hpasses⟩ := hsegment.passes hbefore
    cases segments with
    | nil => exact hpasses.commasFrom
    | cons next segments =>
      rw [Text.joinWith_cons_cons, List.append_assoc, List.singleton_append,
        hpasses.commasFrom_append, ih (List.cons_ne_nil _ _) hrest (by decide)]

/-- Cutting at commas loses nothing of any text, and of segments that are joined with commas it gives
back exactly these. -/
theorem splitCommas_joinWith :
    (∀ text, Text.joinWith [','] (splitCommas text) = text) ∧
      ∀ segments : List Text, segments ≠ [] → (∀ segment ∈ segments, IsSegment segment) →
        splitCommas (Text.joinWith [','] segments) = segments :=
  ⟨joinWith_splitCommas, fun _ hne h => commasFrom_joinWith hne h (by decide)⟩

/-- An equals sign before a comma, brackets in a quoted part before an arrow, an enclosed comma, and
a segment without characters. -/
theorem splitCommas_joinWith_boundaries :
    (∀ segment ∈ ["a=".toList, "f = '(,>'=>[x]", "é: M<K, V>", ""], IsSegment segment) ∧
      splitCommas "a=,f = '(,>'=>[x],é: M<K, V>," =
        ["a=".toList, "f = '(,>'=>[x]", "é: M<K, V>", ""] := by
  have hsegments : ∀ segment ∈ ["a=".toList, "f = '(,>'=>[x]", "é: M<K, V>", ""],
      IsSegment segment := by
    refine List.forall_mem_cons.mpr ⟨⟨"a=".toList.map .bare, by decide⟩, ?_⟩
    refine List.forall_mem_cons.mpr ⟨⟨"f = ".toList.map .bare ++
      .quoted '\x27' "(,>" :: "=>[x]".toList.map .bare, by decide⟩, ?_⟩
    refine List.forall_mem_cons.mpr ⟨⟨"é: M<K, V>".toList.map .bare, by decide⟩, ?_⟩
    exact List.forall_mem_singleton.mpr ⟨[], by decide⟩
  exact ⟨hsegments, splitCommas_joinWith.2 _ (List.cons_ne_nil _ _) hsegments⟩

end ChangeReview.Nesting
