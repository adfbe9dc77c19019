import ChangeReview.Declaration.ParameterList
import ChangeReview.Proofs.Nesting.Pieces
import ChangeReview.Proofs.Text.Identifier

/-!
# Reading a parameter

A parameter list is read piece by piece. In a piece that is no pattern, the name stands before a
colon, an equals sign or the end. `IsNameFront` says which word the text before these is read as,
and `IsIdentifier.isNameFront` that it is the identifier between spread dots and a question mark.
-/

namespace ChangeReview

theorem isInert_of_isBlank {c : Char} (h : isBlank c = true) : Nesting.IsInert c := by
  intro hmark
  have hmarks : ∀ mark ∈ Nesting.marks, isBlank mark = false := by decide
  rw [hmarks c hmark] at h
  cases h

namespace Parameter

variable {front rest : Text}

/-- The parameter of a piece: a pattern, or else a name. -/
def ofPiece (piece : Text) : Parameter :=
  if startsPattern piece then ofParts destructuredName (patternType piece) else ofNamed piece

theorem listOfText_eq_map_pieces (text : Text) :
    listOfText text = (Nesting.pieces text).map ofPiece := by
  rw [listOfText, Nesting.pieces, Nesting.piecesFrom, ← Nesting.splitCommas]
  induction Nesting.splitCommas text with
  | nil => rfl
  | cons part parts ih =>
    rw [List.filterMap_cons, ih, List.map_cons, List.filter_cons]
    by_cases hblank : (Text.trim part).isEmpty = true
    · simp [ofText?, hblank]
    · by_cases hpattern : startsPattern (Text.trim part) = true
      · simp [ofText?, ofPiece, hblank, hpattern]
      · simp [ofText?, ofPiece, hblank, hpattern]

/-- What is joined to a list is read piece by piece. -/
theorem listOfText_joinWith {texts : List Text}
    (h : ∀ text ∈ texts, Nesting.IsPart text ∧ Text.trim text ≠ []) (trailing : Bool) :
    listOfText (Text.joinWith [',', ' '] texts ++ if trailing then [','] else []) =
      texts.map fun text => ofPiece (Text.trim text) := by
  rw [listOfText_eq_map_pieces, Nesting.pieces, Nesting.piecesFrom_joinWith h, List.map_map]
  rfl

/-- The colon ends the name, whatever follows it. -/
theorem ofNamed_colon (hfront : ∀ c ∈ front, Nesting.IsInert c) (hcolon : ':' ∉ front) :
    ofNamed (front ++ ':' :: rest) = ofParts (nameOfText front) (typeOfText rest) := by
  have hinert : ∀ c ∈ front ++ [':'], Nesting.IsInert c :=
    List.forall_mem_append.mpr ⟨hfront, by decide⟩
  have htext : front ++ ':' :: rest = front ++ [':'] ++ rest := by simp
  -- An assignment is found behind the colon or nowhere, so the colon stays before it.
  obtain ⟨declared, hdeclared⟩ : ∃ declared, ((Nesting.splitAssignment (front ++ ':' :: rest)).map
      Prod.fst).getD (front ++ ':' :: rest) = front ++ ':' :: declared := by
    rw [htext, Nesting.splitAssignment, Nesting.assignmentFrom_append_of_isInert hinert]
    cases Nesting.assignmentFrom ((front ++ [':']).getLastD '\x00') 0 rest with
    | none => exact ⟨rest, by simp⟩
    | some parts => exact ⟨parts.1, by simp⟩
  have hdrop : (front ++ ':' :: rest).drop (front.length + 1) = rest := by
    rw [List.drop_append]
    simp
  simp only [ofNamed, hdeclared, Text.splitFirst_append hcolon, hdrop]

/-- Without a type, the equals sign of the default ends the name. -/
theorem ofNamed_assignment (hfront : ∀ c ∈ front, Nesting.IsInert c) (hcolon : ':' ∉ front)
    (hrest : Nesting.isAssignment ' ' rest = true) :
    ofNamed (front ++ ' ' :: '=' :: rest) = ofParts (nameOfText (front ++ [' '])) [] := by
  have hinert : ∀ c ∈ front ++ [' '], Nesting.IsInert c :=
    List.forall_mem_append.mpr ⟨hfront, by decide⟩
  have hassign : Nesting.splitAssignment (front ++ ' ' :: '=' :: rest) =
      some (front ++ [' '], rest) := by
    have htext : front ++ ' ' :: '=' :: rest = front ++ [' '] ++ '=' :: rest := by simp
    have hlast : (front ++ [' ']).getLastD '\x00' = ' ' := by simp
    rw [htext, Nesting.splitAssignment, Nesting.assignmentFrom_append_of_isInert hinert, hlast,
      Nesting.assignmentFrom, hrest]
    simp
  have hno : ':' ∉ front ++ [' '] := by simp [hcolon]
  simp only [ofNamed, hassign, Option.map_some, Option.getD_some, Text.splitFirst_of_notMem hno]

theorem ofNamed_bare (hfront : ∀ c ∈ front, Nesting.IsInert c) (hcolon : ':' ∉ front) :
    ofNamed front = ofParts (nameOfText front) [] := by
  have hassign : Nesting.splitAssignment front = none := by
    have hinert := @Nesting.assignmentFrom_append_of_isInert '\x00' 0 front hfront []
    rwa [List.append_nil] at hinert
  simp only [ofNamed, hassign, Option.map_none, Option.getD_none, Text.splitFirst_of_notMem hcolon]

theorem dropSpread_of_head {text : Text} (h : ∀ c, text.head? = some c → c ≠ '.') :
    dropSpread text = text := by
  unfold dropSpread
  split
  · exact absurd rfl (h '.' rfl)
  · rfl

end Parameter

/-- The text before the type and the default of a parameter that is no pattern. -/
structure IsNameFront (front word : Text) : Prop where
  inert : ∀ c ∈ front, Nesting.IsInert c
  no_colon : ':' ∉ front
  ne_nil : front ≠ []
  trimmed : IsTrimmed front
  /-- The word is read from it, whatever blanks follow. -/
  named : ∀ gap, IsBlankText gap → Parameter.nameOfText (front ++ gap) = word

namespace IsNameFront

variable {front word : Text}

theorem nameOfText (h : IsNameFront front word) : Parameter.nameOfText front = word := by
  have hnamed := h.named [] isBlankText_nil
  rwa [List.append_nil] at hnamed

theorem startsPattern (h : IsNameFront front word) (rest : Text) :
    Parameter.startsPattern (front ++ rest) = false := by
  obtain ⟨c, front, rfl⟩ := List.exists_cons_of_ne_nil h.ne_nil
  have hc := h.inert c List.mem_cons_self
  simp [Parameter.startsPattern, headIs, hc.ne (show '{' ∈ Nesting.marks by decide),
    hc.ne (show '[' ∈ Nesting.marks by decide)]

end IsNameFront

/-- A name behind spread dots or before a question mark, if these are written. -/
def markedName (isRest : Bool) (word : Text) (isOptional : Bool) : Text :=
  (if isRest then ['.', '.', '.'] else []) ++ (word ++ if isOptional then ['?'] else [])

namespace IsIdentifier

variable {word : Text} {isRest isOptional : Bool}

theorem forall_mem_markedName (h : IsIdentifier word) :
    ∀ c ∈ markedName isRest word isOptional, isIdentifierPart c = true ∨ c = '.' ∨ c = '?' := by
  refine List.forall_mem_append.mpr
    ⟨?_, List.forall_mem_append.mpr ⟨fun c hc => .inl (h.parts c hc), ?_⟩⟩
  · cases isRest <;> simp
  · cases isOptional <;> simp

theorem isTrimmed_markedName (h : IsIdentifier word) :
    IsTrimmed (markedName isRest word isOptional) := by
  refine isTrimmed_of_forall fun c hc => ?_
  rcases h.forall_mem_markedName c hc with hpart | rfl | rfl
  · exact isBlank_of_isIdentifierPart hpart
  · rfl
  · rfl

/-- A name is read without spread dots and question mark. -/
theorem nameOfText_markedName (h : IsIdentifier word) :
    Parameter.nameOfText (markedName isRest word isOptional) = word := by
  have hdot : ∀ c, (word ++ if isOptional then ['?'] else []).head? = some c → c ≠ '.' := by
    intro c hc
    rw [List.head?_append_of_ne_nil _ h.ne_nil] at hc
    exact h.ne (List.mem_of_head? hc) (by decide)
  have hspread := Parameter.dropSpread_of_head hdot
  have hdots : Parameter.dropSpread (markedName isRest word isOptional) =
      word ++ if isOptional then ['?'] else [] := by
    cases isRest <;> exact hspread
  have hword : Text.trimEndBy (fun c => c == '?' || c == '!') word = word := by
    refine Text.trimEndBy_of_getLast fun c hc => ?_
    have hmem := List.mem_of_getLast? hc
    simp [h.ne hmem (show isIdentifierPart '?' = false by decide),
      h.ne hmem (show isIdentifierPart '!' = false by decide)]
  have hmark : Text.trimEndBy (fun c => c == '?' || c == '!')
      (word ++ if isOptional then ['?'] else []) = word := by
    rw [Text.trimEndBy_append_of_all, hword]
    cases isOptional <;> simp
  rw [Parameter.nameOfText, Text.trim_of_isTrimmed h.isTrimmed_markedName, hdots, hmark,
    Text.trim_of_isTrimmed h.isTrimmed]

theorem isNameFront (h : IsIdentifier word) (isRest isOptional : Bool) :
    IsNameFront (markedName isRest word isOptional) word := by
  refine ⟨fun c hc => ?_, fun hc => ?_, ?_, h.isTrimmed_markedName, fun gap hgap => ?_⟩
  · rcases h.forall_mem_markedName c hc with hpart | rfl | rfl
    · exact isInert_of_isIdentifierPart hpart
    · decide
    · decide
  · have hcolon : isIdentifierPart ':' = false := by decide
    simpa [hcolon] using h.forall_mem_markedName ':' hc
  · simp [markedName, h.ne_nil]
  · have htrim := Text.trim_append isBlankText_nil hgap (markedName isRest word isOptional)
    rw [List.nil_append] at htrim
    rw [Parameter.nameOfText, htrim, ← Parameter.nameOfText, h.nameOfText_markedName]

end IsIdentifier

end ChangeReview
