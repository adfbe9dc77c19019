import ChangeReview.Proofs.Declaration.MethodHead
import ChangeReview.Proofs.Declaration.NameFront
import ChangeReview.Proofs.Documentation.ParameterRule

/-!
# Parameters that need no tag

A destructuring pattern has no name of its own and needs no tag. It is known by the name that stands
for every pattern, so that a parameter of this very name needs none either.
`missingParamTag_mem_discrepancies_iff` says so of every list: a tag is missed for each other piece
of the list that has none.
-/

namespace ChangeReview

namespace Parameter

/-- The text that the name of a parameter is read from: up to its type, or else its default. -/
def front (piece : Text) : Text :=
  let declared := ((Nesting.splitAssignment piece).map Prod.fst).getD piece
  ((Text.splitFirst ':' declared).map Prod.fst).getD declared

/-- So many times the three dots of a parameter that gathers the remaining arguments. -/
def spread (count : Nat) : Text := (List.replicate count ['.', '.', '.']).flatten

/-- The text consists of the word, spread dots before it, marks behind it, and blanks. -/
def Writes (text word : Text) : Prop :=
  ∃ lead count gap after marks tail,
    text = lead ++ (spread count ++ gap ++ word ++ (after ++ marks)) ++ tail ∧
      IsBlankText lead ∧ IsBlankText gap ∧ IsBlankText after ∧ IsBlankText tail ∧
      ∀ c ∈ marks, c = '?' ∨ c = '!'

theorem ofNamed_name (piece : Text) : (ofNamed piece).name = nameOfText (front piece) := by
  rw [ofNamed, front]
  split
  · next hcolon => rw [hcolon]; rfl
  · next hcolon => rw [hcolon]; rfl

theorem spread_succ (count : Nat) : spread (count + 1) = '.' :: '.' :: '.' :: spread count := by
  rw [spread, List.replicate_succ, List.flatten_cons, spread]
  rfl

theorem exists_dropSpread (text : Text) : ∃ count, text = spread count ++ dropSpread text := by
  fun_induction dropSpread text with
  | case1 rest ih =>
    obtain ⟨count, hrest⟩ := ih
    refine ⟨count + 1, ?_⟩
    rw [spread_succ, List.cons_append, List.cons_append, List.cons_append, ← hrest]
  | case2 text => exact ⟨0, rfl⟩

theorem dropSpread_append (count : Nat) {text : Text}
    (h : ∀ c, text.head? = some c → c ≠ '.') : dropSpread (spread count ++ text) = text := by
  induction count with
  | zero => exact dropSpread_of_head h
  | succ count ih => rw [spread_succ, List.cons_append, List.cons_append, List.cons_append,
      dropSpread, ih]

variable {text word : Text}

theorem writes_nameOfText (text : Text) : Writes text (nameOfText text) := by
  obtain ⟨lead, tail, htext, hlead, htail, _⟩ := Text.exists_trim text
  obtain ⟨count, hspread⟩ := exists_dropSpread (Text.trim text)
  obtain ⟨marks, hmarked, hmarks, _⟩ :=
    Text.exists_trimEndBy (fun c => c == '?' || c == '!') (dropSpread (Text.trim text))
  obtain ⟨gap, after, hword, hgap, hafter, _⟩ := Text.exists_trim
    (Text.trimEndBy (fun c => c == '?' || c == '!') (dropSpread (Text.trim text)))
  refine ⟨lead, count, gap, after, marks, tail, ?_, hlead, hgap, hafter, htail, ?_⟩
  · change _ = gap ++ nameOfText text ++ after at hword
    rw [hword] at hmarked
    rw [hmarked] at hspread
    conv_lhs => rw [htext, hspread]
    simp only [List.append_assoc]
  · intro c hc
    simpa using hmarks c hc

theorem isBlank_of_mem_spread {count : Nat} {c : Char} (h : c ∈ spread count) :
    isBlank c = false := by
  induction count with
  | zero => cases h
  | succ count ih =>
    rw [spread_succ] at h
    simp only [List.mem_cons] at h
    rcases h with rfl | rfl | rfl | h
    · rfl
    · rfl
    · rfl
    · exact ih h

theorem exists_trimEnd_marks {after marks : Text} (hafter : IsBlankText after)
    (hmarks : ∀ c ∈ marks, c = '?' ∨ c = '!') :
    ∃ kept, IsBlankText kept ∧ Text.trimEnd (after ++ marks) = kept ++ marks := by
  cases hlast : marks.getLast? with
  | none =>
    obtain rfl := List.getLast?_eq_none_iff.mp hlast
    refine ⟨[], isBlankText_nil, ?_⟩
    rw [List.append_nil, List.append_nil]
    exact Text.trimEndBy_append_of_all [] hafter
  | some last =>
    refine ⟨after, hafter, Text.trimEndBy_of_getLast fun c hc => ?_⟩
    rw [List.getLast?_append, hlast, Option.some_or, Option.some.injEq] at hc
    subst hc
    rcases hmarks last (List.mem_of_getLast? hlast) with rfl | rfl <;> rfl

/-- The blanks between dots, word and marks stay when the text is trimmed. -/
theorem exists_trim_spread (hword : IsIdentifier word) {gap after marks : Text}
    (hgap : IsBlankText gap) (hafter : IsBlankText after) (hmarks : ∀ c ∈ marks, c = '?' ∨ c = '!')
    (count : Nat) :
    ∃ left right, IsBlankText left ∧ IsBlankText right ∧
      Text.trim (spread count ++ gap ++ word ++ (after ++ marks)) =
        spread count ++ (left ++ word ++ right ++ marks) := by
  obtain ⟨kept, hkept, hend⟩ := exists_trimEnd_marks hafter hmarks
  cases count with
  | zero =>
    refine ⟨[], kept, isBlankText_nil, hkept, ?_⟩
    have hnil : spread 0 = [] := rfl
    rw [hnil, List.nil_append, List.append_assoc, Text.trim_append_left hgap,
      Text.trim_append_right hword.isTrimmed hword.ne_nil, hend]
    simp only [List.nil_append, List.append_assoc]
  | succ count =>
    refine ⟨gap, kept, hgap, hkept, ?_⟩
    have hdots : IsTrimmed (spread (count + 1)) :=
      isTrimmed_of_forall fun _ => isBlank_of_mem_spread
    have hne : spread (count + 1) ≠ [] := by
      rw [spread_succ]
      exact List.cons_ne_nil _ _
    have hcore := Text.isTrimmed_append hdots hword.isTrimmed hne hword.ne_nil gap
    rw [Text.trim_append_right hcore (by simp [hne]), hend]
    simp

/-- An identifier is read as the name exactly of the texts that write it. -/
theorem nameOfText_eq_iff (hword : IsIdentifier word) :
    nameOfText text = word ↔ Writes text word := by
  constructor
  · rintro rfl
    exact writes_nameOfText text
  · rintro ⟨lead, count, gap, after, marks, tail, rfl, hlead, hgap, hafter, htail, hmarks⟩
    -- What stands between dots and marks neither begins like dots nor ends like a mark.
    obtain ⟨left, right, hleft, hright, htrim⟩ :=
      exists_trim_spread hword hgap hafter hmarks count
    have hhead : ∀ c, (left ++ word ++ right ++ marks).head? = some c → c ≠ '.' := by
      rintro c hc rfl
      cases left with
      | nil =>
        rw [List.nil_append, List.append_assoc, List.head?_append_of_ne_nil _ hword.ne_nil] at hc
        exact hword.ne (List.mem_of_head? hc) (by decide) rfl
      | cons blank left =>
        cases hc
        exact absurd (hleft '.' List.mem_cons_self) (by decide)
    have hlast : ∀ c, (left ++ word ++ right).getLast? = some c →
        (c == '?' || c == '!') = false := by
      intro c hc
      have hmem : c ∈ word ∨ c ∈ right := by
        rw [List.append_assoc, List.getLast?_append_of_ne_nil _ (by simp [hword.ne_nil])] at hc
        exact List.mem_append.mp (List.mem_of_getLast? hc)
      rcases hmem with hmem | hmem
      · simp [hword.ne hmem (show isIdentifierPart '?' = false by decide),
          hword.ne hmem (show isIdentifierPart '!' = false by decide)]
      · rw [← Bool.not_eq_true, Bool.or_eq_true, beq_iff_eq, beq_iff_eq]
        rintro (rfl | rfl) <;> exact absurd (hright _ hmem) (by decide)
    have hdrop : Text.trimEndBy (fun c => c == '?' || c == '!') (left ++ word ++ right ++ marks) =
        left ++ word ++ right := by
      rw [Text.trimEndBy_append_of_all _ fun c hc => by simpa using hmarks c hc,
        Text.trimEndBy_of_getLast hlast]
    rw [nameOfText, Text.trim_append hlead htail, htrim, dropSpread_append count hhead, hdrop,
      Text.trim_append hleft hright, Text.trim_of_isTrimmed hword.isTrimmed]

end Parameter

namespace Documentation

open Parameter

theorem isDestructured_ofPiece (piece : Text) :
    (ofPiece piece).isDestructured = true ↔
      startsPattern piece = true ∨ Writes (front piece) destructuredName := by
  have hword : IsIdentifier destructuredName := by decide +kernel
  rw [← nameOfText_eq_iff hword, ofPiece]
  cases hpattern : startsPattern piece with
  | true => simp [ofParts, isDestructured]
  | false => simp [isDestructured, ofNamed_name]

theorem parameterDiscrepancy?_eq_missingParamTag_iff {tags : List ParamTag} {declared name : Text} :
    parameterDiscrepancy? tags declared = some (.missingParamTag name) ↔
      declared = name ∧ ∀ tag ∈ tags, tag.name ≠ name := by
  rw [parameterDiscrepancy?]
  cases hfind : tags.find? (·.name == declared) with
  | none =>
    have hnone : ∀ tag ∈ tags, tag.name ≠ declared := by simpa using hfind
    simp only [Option.some.injEq, Discrepancy.missingParamTag.injEq]
    exact ⟨fun hname => ⟨hname, hname ▸ hnone⟩, And.left⟩
  | some tag =>
    have htag := List.mem_of_find?_eq_some hfind
    have hname : tag.name = declared := by simpa using List.find?_some hfind
    constructor
    · intro h
      simp only at h
      split at h <;> cases h
    · rintro ⟨rfl, hnone⟩
      exact absurd hname (hnone tag htag)

theorem missingParamTag_mem_iff {declaration : Declaration} (hmethod : declaration.isMethod = true)
    (voidReturn : VoidReturn) (block : DocBlock) (name : Text) :
    .missingParamTag name ∈ discrepancies voidReturn declaration (some block) ↔
      (∃ parameter ∈ declaration.namedParameters, parameter.name = name) ∧
        ∀ tag ∈ ParamTag.ofText block.text, tag.name ≠ name := by
  have hmem : .missingParamTag name ∈ discrepancies voidReturn declaration (some block) ↔
      .missingParamTag name ∈ parameterDiscrepancies declaration block := by
    rw [← filter_discrepancies hmethod voidReturn, List.mem_filter]
    exact (and_iff_left rfl).symm
  rw [hmem, parameterDiscrepancies]
  split
  · next hempty => simp [List.isEmpty_iff.mp hempty]
  · simp only [List.mem_append, List.mem_filterMap, List.mem_map, List.mem_filter, reduceCtorEq,
      and_false, exists_false, or_false, parameterDiscrepancy?_eq_missingParamTag_iff]
    constructor
    · rintro ⟨parameter, hparameter, hname, htags⟩
      exact ⟨⟨parameter, hparameter, hname⟩, htags⟩
    · rintro ⟨⟨parameter, hparameter, hname⟩, htags⟩
      exact ⟨parameter, hparameter, hname, htags⟩

/-- Of every list, a tag is missed for each piece that has none, is no pattern and does not bear the
name of patterns. -/
theorem missingParamTag_mem_discrepancies_iff (text : Text) (head : MethodHead)
    (returnType : Option Text) (lineNumber : Nat) (voidReturn : VoidReturn) (block : DocBlock) :
    listOfText text = (Nesting.pieces text).map ofPiece ∧
      (∀ piece ∈ Nesting.pieces text, (ofPiece piece).isDestructured = true ↔
        startsPattern piece = true ∨ Writes (front piece) destructuredName) ∧
      ∀ name, .missingParamTag name ∈ discrepancies voidReturn
          (head.declaration (listOfText text) returnType lineNumber) (some block) ↔
        (∃ piece ∈ Nesting.pieces text, startsPattern piece = false ∧
          ¬ Writes (front piece) destructuredName ∧ nameOfText (front piece) = name) ∧
        ∀ tag ∈ ParamTag.ofText block.text, tag.name ≠ name := by
  refine ⟨listOfText_eq_map_pieces text, fun piece _ => isDestructured_ofPiece piece, ?_⟩
  intro name
  rw [missingParamTag_mem_iff rfl]
  apply and_congr_left'
  have hpiece (piece : Text) :
      (ofPiece piece).isDestructured = false ∧ (ofPiece piece).name = name ↔
        startsPattern piece = false ∧ ¬ Writes (front piece) destructuredName ∧
          nameOfText (front piece) = name := by
    rw [← Bool.not_eq_true, isDestructured_ofPiece, not_or, Bool.not_eq_true, and_assoc]
    refine and_congr_right fun hpattern => and_congr_right fun _ => ?_
    rw [ofPiece, hpattern, if_neg Bool.false_ne_true, ofNamed_name]
  simp [Declaration.namedParameters, MethodHead.declaration, listOfText_eq_map_pieces, hpiece,
    and_assoc]

/-- A parameter that bears the name of patterns, beside one that does not. -/
theorem namedParameters_reservedName :
    Nesting.pieces "destructured: string, id: number" = ["destructured: string", "id: number"] ∧
      startsPattern "destructured: string" = false ∧
      (Declaration.ofLine? "run(destructured: string, id: number): void \x7b" 1).map
        (·.namedParameters) = some [⟨"id", "number"⟩] := by
  decide +kernel

end Documentation

end ChangeReview
