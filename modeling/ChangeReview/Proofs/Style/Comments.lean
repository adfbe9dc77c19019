import ChangeReview.Proofs.Comment.Location
import ChangeReview.Proofs.Style.Findings

/-!
# Comments in stylesheets

The scan of a stylesheet knows a comment by the line that begins with its opening, and takes it for
closed after any line with `*/` on it. A comment that opens behind code, or on a line on which
another one closes, is not seen unless a later line of it begins with `/*`.
`Style.exists_violation_iff_of_startsOpen` says of each line inside a comment whether the scan looks
for declarations on it.
-/

namespace ChangeReview.Style

open DocBlock (Closes)

/-- A line that begins with the opening of a comment. -/
def Opens (lines : List Text) (index : Nat) : Prop :=
  ∃ line, lines[index]? = some line ∧ ['/', '*'] <+: Text.trimStart line

/-- A line that begins inside a comment and on which none closes. -/
def LiesInside (lines : List Text) (index : Nat) : Prop :=
  (Comment.startsOpen lines)[index]? = some true ∧ ¬ Closes lines index

/-- A comment is seen from the line that begins with its opening on, up to one on which any comment
closes. -/
def IsSeen (lines : List Text) (index : Nat) : Prop :=
  ∃ first < index, Opens lines first ∧ ∀ k, first ≤ k → k < index → ¬ Closes lines k

variable {table : List Property} {path : Path} {changed : ChangedLines} {lines : List Text}
  {line : Text} {index : Nat}

/-! ## What the scan takes for a comment -/

theorem openAfter_eq_true_iff (isOpen : Bool) (line : Text) :
    openAfter isOpen line = true ↔
      (isOpen = true ∨ ['/', '*'] <+: Text.trimStart line) ∧ ¬ ['*', '/'] <:+: line := by
  have hrole : (roleOf isOpen line == .comment) = true ↔
      isOpen = true ∨ ['/', '*'] <+: Text.trimStart line := by
    rw [roleOf, ← List.isPrefixOf_iff_prefix, ← Bool.or_eq_true]
    split
    · next hcomment => exact ⟨fun _ => hcomment, fun _ => rfl⟩
    · next hcode => split <;> exact ⟨fun h => absurd h (by decide), fun h => absurd h hcode⟩
  rw [openAfter, Bool.and_eq_true, hrole, Bool.not_eq_true', Text.contains_eq_false_iff]
  rfl

theorem foldl_openAfter_iff (hindex : index ≤ lines.length) :
    (lines.take index).foldl openAfter false = true ↔ IsSeen lines index := by
  induction index with
  | zero =>
    exact ⟨fun h => absurd h Bool.false_ne_true, fun ⟨_, hlt, _⟩ => absurd hlt (Nat.not_lt_zero _)⟩
  | succ index ih =>
    have hline := List.getElem?_eq_getElem (show index < lines.length by omega)
    have hopens : Opens lines index ↔ ['/', '*'] <+: Text.trimStart lines[index] := by
      simp only [Opens, hline, Option.some.injEq, exists_eq_left']
    have hcloses : Closes lines index ↔ ['*', '/'] <:+: lines[index] := by
      simp only [Closes, hline, Option.some.injEq, exists_eq_left']
    rw [List.take_succ_eq_append_getElem (show index < lines.length by omega), List.foldl_append,
      List.foldl_cons, List.foldl_nil, openAfter_eq_true_iff, ih (by omega), ← hopens, ← hcloses]
    constructor
    · rintro ⟨⟨first, hlt, hfirst, hno⟩ | hhere, hclosed⟩
      · refine ⟨first, by omega, hfirst, fun k hle hk => ?_⟩
        by_cases hlast : k = index
        · rwa [hlast]
        · exact hno k hle (by omega)
      · refine ⟨index, by omega, hhere, fun k hle hk => ?_⟩
        have hlast : k = index := by omega
        rwa [hlast]
    · rintro ⟨first, hlt, hfirst, hno⟩
      refine ⟨?_, hno index (by omega) (by omega)⟩
      by_cases hlast : first = index
      · exact .inr (hlast ▸ hfirst)
      · exact .inl ⟨first, by omega, hfirst, fun k hle hk => hno k hle (by omega)⟩

/-- A line with a declaration begins with a letter. -/
theorem not_slash_prefix_of_declaration? {declared : Text × Text}
    (h : declaration? line = some declared) (mark : Text) :
    List.isPrefixOf ('/' :: mark) (Text.trimStart line) = false := by
  rw [declaration?] at h
  cases htrim : Text.trimStart line with
  | nil => rfl
  | cons c rest =>
    have hc : '/' ≠ c := by
      rintro rfl
      rw [htrim] at h
      cases h
    rw [List.isPrefixOf_cons_cons, beq_eq_false_iff_ne.mpr hc, Bool.false_and]

/-- Only a comment above can hide a declaration. -/
theorem roleOf_of_lineViolation? {isOpen : Bool} {number : Nat} {v : Violation}
    (hv : lineViolation? table path number line = some v) :
    roleOf isOpen line = .code ↔ isOpen = false := by
  obtain ⟨declared, hdeclared, -⟩ := Option.bind_eq_some_iff.mp hv
  have hcomment : "/*".toList.isPrefixOf (Text.trimStart line) = false :=
    not_slash_prefix_of_declaration? hdeclared ['*']
  have hremark : "//".toList.isPrefixOf (Text.trimStart line) = false :=
    not_slash_prefix_of_declaration? hdeclared ['/']
  rw [roleOf, hcomment, hremark, Bool.or_false]
  cases isOpen <;> decide

/-- A line has its finding unless a comment is seen around it. -/
theorem exists_violation_iff {content : Text} (hline : (Text.lines content)[index]? = some line) :
    (∃ v ∈ violations table path content changed, v.line = index + 1) ↔
      changed.contains (index + 1) = true ∧
        (lineViolation? table path (index + 1) line).isSome = true ∧
        ¬ IsSeen (Text.lines content) index := by
  have hindex := (List.getElem?_eq_some_iff.mp hline).1.le
  rw [violations_eq_violationsFrom, ← foldl_openAfter_iff hindex, Bool.not_eq_true]
  constructor
  · rintro ⟨v, hv, hnumber⟩
    obtain ⟨k, found, hfound, hchanged, hrole, hv⟩ := mem_violationsFrom_iff.mp hv
    have hk : k = index := by
      have := (lineViolation?_spec hv).2.1
      omega
    subst hk
    rw [hline] at hfound
    obtain rfl := Option.some.inj hfound
    rw [Nat.add_comm] at hchanged hv
    exact ⟨hchanged, Option.isSome_iff_exists.mpr ⟨v, hv⟩, (roleOf_of_lineViolation? hv).mp hrole⟩
  · rintro ⟨hchanged, hsome, hclosed⟩
    obtain ⟨v, hv⟩ := Option.isSome_iff_exists.mp hsome
    refine ⟨v, mem_violationsFrom_iff.mpr ⟨index, line, hline, ?_⟩, (lineViolation?_spec hv).2.1⟩
    rw [Nat.add_comm 1]
    exact ⟨hchanged, (roleOf_of_lineViolation? hv).mpr hclosed, hv⟩

/-! ## What is a comment -/

/-- A comment that begins a line reaches on as long as none closes. -/
theorem openAfterLines_of_opens {first : Nat} (hfirst : Opens lines first) (hlt : first < index)
    (hindex : index ≤ lines.length) (hno : ∀ k, first ≤ k → k < index → ¬ Closes lines k) :
    Comment.openAfterLines false (lines.take index) = true := by
  obtain ⟨opener, hopener, rest, hrest⟩ := hfirst
  induction index, hlt using Nat.le_induction with
  | base =>
    have hopen : ¬ ['*', '/'] <:+: opener := fun h => hno first le_rfl (by omega) ⟨_, hopener, h⟩
    obtain ⟨lead, hsplit, hlead, -⟩ := Text.exists_trimStartBy isBlank opener
    rw [← Text.trimStart, ← hrest] at hsplit
    rw [List.take_add_one, hopener, Comment.openAfterLines_append, hsplit]
    exact Comment.openAfter_of_opener hlead (hsplit ▸ hopen) _
  | succ index hle ih =>
    have hline := List.getElem?_eq_getElem (show index < lines.length by omega)
    have hopen : ¬ ['*', '/'] <:+: lines[index] :=
      fun h => hno index (by omega) (by omega) ⟨_, hline, h⟩
    rw [List.take_add_one, hline, Comment.openAfterLines_append,
      ih (by omega) fun k hk hlt => hno k hk (by omega)]
    exact Comment.openAfter_true hopen

/-- The comment that a line begins in is the one that opened on the last line above that does not
lie inside one. -/
theorem isSeen_iff {opened : Nat} (hindex : index ≤ lines.length)
    (hopened : IsGreatest {k | k < index ∧ ¬ LiesInside lines k} opened) :
    IsSeen lines index ↔
      (Opens lines opened ∧ ¬ Closes lines opened) ∨
        ∃ k, opened < k ∧ k < index ∧ Opens lines k := by
  obtain ⟨⟨hopenedLt, houtside⟩, hlast⟩ := hopened
  have hinside {k : Nat} (hk : opened < k) (hlt : k < index) : ¬ Closes lines k := by
    by_contra hcloses
    exact absurd (hlast ⟨hlt, fun h => h.2 hcloses⟩) (Nat.not_le.mpr hk)
  constructor
  · rintro ⟨first, hlt, hfirst, hno⟩
    rcases Nat.lt_trichotomy first opened with hbelow | rfl | habove
    · -- The comment that begins at `first` would still be open on the line `opened`.
      refine absurd ⟨?_, hno opened hbelow.le hopenedLt⟩ houtside
      rw [Comment.getElem?_startsOpen (by omega), Option.some.injEq]
      exact openAfterLines_of_opens hfirst hbelow (by omega) fun k hk hlt => hno k hk (by omega)
    · exact .inl ⟨hfirst, hno first le_rfl hlt⟩
    · exact .inr ⟨first, habove, hlt, hfirst⟩
  · rintro (⟨hopens, hcloses⟩ | ⟨first, hfirst, hlt, hopens⟩)
    · refine ⟨opened, hopenedLt, hopens, fun k hk hlt => ?_⟩
      by_cases hk' : k = opened
      · rwa [hk']
      · exact hinside (by omega) hlt
    · exact ⟨first, hlt, hopens, fun k hk => hinside (by omega)⟩

/-- Of a line inside a comment, the comment opened on the last line above that is not wholly inside
one. There is a finding on the line if and only if it is changed, holds a declaration to find, and
neither begins a line above it with `/*` in that comment nor does the comment's first line, unless
some comment closes there. -/
theorem exists_violation_iff_of_startsOpen (table : List Property) (path : Path) (content : Text)
    (changed : ChangedLines) {index : Nat} {line : Text}
    (hline : (Text.lines content)[index]? = some line)
    (hinside : (Comment.startsOpen (Text.lines content))[index]? = some true) :
    ∃ opened, IsGreatest {k | k < index ∧ ¬ LiesInside (Text.lines content) k} opened ∧
      ((∃ v ∈ violations table path content changed, v.line = index + 1) ↔
        changed.contains (index + 1) = true ∧
          (lineViolation? table path (index + 1) line).isSome = true ∧
          (Opens (Text.lines content) opened → Closes (Text.lines content) opened) ∧
          ∀ k, opened < k → k < index → ¬ Opens (Text.lines content) k) := by
  have hindex := (List.getElem?_eq_some_iff.mp hline).1
  have hfirst : ¬ LiesInside (Text.lines content) 0 := by
    rintro ⟨h, -⟩
    rw [Comment.getElem?_startsOpen (by omega)] at h
    cases h
  have hpos : 0 < index := by
    rw [Comment.getElem?_startsOpen hindex] at hinside
    rcases Nat.eq_zero_or_pos index with rfl | hpos
    · cases hinside
    · exact hpos
  rcases DocBlock.exists_isGreatest_or_forall_not index (¬ LiesInside (Text.lines content) ·) with
    ⟨opened, hopened⟩ | hnone
  · refine ⟨opened, hopened, ?_⟩
    rw [exists_violation_iff hline, isSeen_iff hindex.le hopened]
    simp only [not_or, not_and, not_not, not_exists]
  · exact absurd hfirst (hnone 0 hpos)

/-- A comment whose second star would have to close it too. -/
def sharedStarSheet : Text := "/*/\n  color: #fff;\n*/\n"

/-- The comment opens on the line of `/*/`, which the scan takes for closed. -/
theorem exists_violation_iff_of_startsOpen_sharedStar :
    (Text.lines sharedStarSheet)[1]? = some ("  color: #fff;" : Text) ∧
      (Comment.startsOpen (Text.lines sharedStarSheet))[1]? = some true ∧
      ∃ v ∈ violations builtin "card.css" sharedStarSheet (.wholeFile 3), v.line = 2 := by
  have hline : (Text.lines sharedStarSheet)[1]? = some ("  color: #fff;" : Text) := by
    decide +kernel
  have hinside : (Comment.startsOpen (Text.lines sharedStarSheet))[1]? = some true := by
    decide +kernel
  obtain ⟨opened, ⟨⟨hlt, -⟩, -⟩, hfinding⟩ := exists_violation_iff_of_startsOpen builtin "card.css"
    sharedStarSheet (.wholeFile 3) hline hinside
  obtain rfl : opened = 0 := by omega
  have hcloses : Closes (Text.lines sharedStarSheet) 0 :=
    ⟨("/*/" : Text), by decide +kernel, by decide⟩
  exact ⟨hline, hinside, hfinding.mpr
    ⟨by decide, by decide +kernel, fun _ => hcloses, fun k hk hlt => by omega⟩⟩

/-- A rule set whose declarations stand in a comment that opens behind code. -/
def trailingCommentSheet : Text := ".card \x7b /* old rules\n  display: flex;\n*/ \x7d\n"

/-- A declaration in such a comment is flagged. -/
theorem violations_trailingComment :
    (Comment.startsOpen (Text.lines trailingCommentSheet))[1]? = some true ∧
      (violations builtin "card.css" trailingCommentSheet (.wholeFile 3)).map
        (fun v => (v.line, v.rule)) = [(2, .styleUtility)] := by
  decide +kernel

end ChangeReview.Style
