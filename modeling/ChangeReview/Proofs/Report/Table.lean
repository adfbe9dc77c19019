import ChangeReview.Proofs.Report.Shown
import Mathlib.Data.List.Forall2

/-!
# The table of findings

The table report has a head and then a row for each finding. In a row the message is escaped and the
path is not, so that a bar in a path makes one cell more and a line feed in a path breaks the row
in two. `Report.forall₂_isRow_iff` says that nothing else breaks a table.
-/

namespace ChangeReview.Report

/-! ## Plain texts -/

/-- All characters of the text are ASCII characters. -/
def IsAscii (text : Text) : Prop := ∀ c ∈ text, c.toNat < 128

/-- All characters of the text are ASCII characters other than controls. -/
def IsPlain (text : Text) : Prop := ∀ c ∈ text, 32 ≤ c.toNat ∧ c.toNat < 128

instance : DecidablePred IsAscii := fun text =>
  inferInstanceAs (Decidable (∀ c ∈ text, c.toNat < 128))

instance : DecidablePred IsPlain := fun text =>
  inferInstanceAs (Decidable (∀ c ∈ text, 32 ≤ c.toNat ∧ c.toNat < 128))

theorem IsAscii.append {a b : Text} (ha : IsAscii a) (hb : IsAscii b) : IsAscii (a ++ b) :=
  fun c hc => (List.mem_append.mp hc).elim (ha c) (hb c)

/-- The marks of severities are no ASCII texts. -/
theorem IsAscii.not_mark {text : Text} (h : IsAscii text) (severity : Severity) :
    ¬ mark severity <:+: text := by
  intro hin
  cases severity with
  | warning => exact absurd (h '⚠' (hin.subset (by decide))) (by decide)
  | error => exact absurd (h '❌' (hin.subset (by decide))) (by decide)

theorem IsPlain.isAscii {text : Text} (h : IsPlain text) : IsAscii text := fun c hc => (h c hc).2

theorem IsPlain.newline_notMem {text : Text} (h : IsPlain text) : '\n' ∉ text := fun hc =>
  absurd (h _ hc).1 (by decide)

theorem isPlain_ofNat (n : Nat) : IsPlain (Text.ofNat n) := by
  intro c hc
  have hdigit := Text.isDigit_of_mem_ofNat hc
  simp only [Char.isDigit, Bool.and_eq_true, decide_eq_true_eq, UInt32.le_iff_toNat_le] at hdigit
  exact ⟨Nat.le_trans (by decide) hdigit.1, Nat.lt_of_le_of_lt hdigit.2 (by decide)⟩

theorem isAscii_unlines {lines : List Text} (h : ∀ line ∈ lines, IsPlain line) :
    IsAscii (Text.unlines lines) := by
  refine Text.forall_mem_concat fun ended hended => ?_
  obtain ⟨line, hline, rfl⟩ := List.mem_map.mp hended
  exact IsAscii.append (h line hline).isAscii (by decide)

theorem isPlain_tableHeadline (summary : Violation.Summary) :
    IsPlain (tableHeadline summary) := by
  have hnumber := isPlain_ofNat
  refine Text.forall_mem_concat ?_
  simp only [List.forall_mem_cons]
  refine ⟨?_, hnumber _, ?_, hnumber _, ?_, hnumber _, ?_, hnumber _, ?_, ?_⟩
  all_goals decide

theorem isPlain_tableHead (summary : Violation.Summary) :
    ∀ line ∈ tableHead summary, IsPlain line := by
  simp only [tableHead, List.forall_mem_cons]
  refine ⟨?_, ?_, isPlain_tableHeadline summary, ?_, ?_, ?_, ?_⟩
  all_goals decide

theorem isAscii_tableHead (summary : Violation.Summary) :
    IsAscii (Text.unlines (tableHead summary)) :=
  isAscii_unlines (isPlain_tableHead summary)

theorem flatMap_splitOnChar_tableHead (summary : Violation.Summary) :
    (tableHead summary).flatMap (Text.splitOnChar '\n') = tableHead summary :=
  Text.flatMap_splitOnChar fun line hline => (isPlain_tableHead summary line hline).newline_notMem

/-- The table of some findings: its head, then a row for each. -/
theorem markdown_eq {violations : List Violation} (h : violations ≠ []) :
    markdown violations = Text.unlines (tableHead (Violation.summarize violations)) ++
      Text.unlines (violations.map tableRow) := by
  have hclean : (Violation.summarize violations).isClean = false := by
    simpa [Violation.Summary.isClean, Violation.summarize] using h
  simp only [markdown, hclean]
  exact Text.unlines_append _ _

/-! ## Rows -/

/-- The number of bars that no backslash precedes, given the character before the text. -/
def bareBarsFrom (before : Option Char) : Text → Nat
  | [] => 0
  | c :: rest => (if c = '|' ∧ before ≠ some '\\' then 1 else 0) + bareBarsFrom (some c) rest

/-- The number of bars in a line that no backslash precedes. -/
def bareBars (line : Text) : Nat := bareBarsFrom none line

/-- The line between the head of the table and its rows. -/
def separatorLine : Text := "|---|------|-----:|------|---------|"

/-- The lines of a report below the head of its table. -/
def rowLines (report : Text) : List Text :=
  ((Text.splitOnChar '\n' report).dropWhile (· != separatorLine)).tail.dropLast

/-- The line is the row of the finding and has five cells. -/
structure IsRow (violation : Violation) (line : Text) : Prop where
  line_eq : line = rowOf violation
  bareBars_eq : bareBars line = 6

variable {before : Option Char} {text message : Text} {v : Violation}
  {violations : List Violation}

theorem bareBarsFrom_append (before : Option Char) (a b : Text) :
    bareBarsFrom before (a ++ b) =
      bareBarsFrom before a + bareBarsFrom (a.getLast?.or before) b := by
  induction a generalizing before with
  | nil => simp [bareBarsFrom]
  | cons c a ih =>
    have hlast : (c :: a).getLast?.or before = a.getLast?.or (some c) := by
      cases a <;> simp [List.getLast?_cons]
    rw [List.cons_append, bareBarsFrom, bareBarsFrom, ih, hlast, Nat.add_assoc]

theorem bareBarsFrom_of_notMem (h : '\\' ∉ text) (hbefore : before ≠ some '\\') :
    bareBarsFrom before text = text.count '|' := by
  induction text generalizing before with
  | nil => rfl
  | cons c text ih =>
    rw [List.mem_cons, not_or] at h
    have hc : some c ≠ some '\\' := fun hc => h.1 (Option.some.inj hc).symm
    rw [bareBarsFrom, ih h.2 hc, List.count_cons, Nat.add_comm]
    by_cases hbar : c = '|' <;> simp [hbar, hbefore]

theorem escapeCell_cons (c : Char) (message : Text) :
    escapeCell (c :: message) =
      (if c = '|' then ['\\', '|'] else if c = '\n' then [' '] else [c]) ++ escapeCell message := by
  rw [escapeCell_eq, escapeCell_eq, shownMessage, List.flatMap_cons, ← shownMessage]

theorem bareBarsFrom_escapeCell (before : Option Char) (message : Text) :
    bareBarsFrom before (escapeCell message) = 0 := by
  induction message generalizing before with
  | nil => rfl
  | cons c message ih =>
    rw [escapeCell_cons, bareBarsFrom_append, ih, Nat.add_zero]
    split
    · rfl
    · split <;> simp [bareBarsFrom, *]

theorem newline_notMem_escapeCell (message : Text) : '\n' ∉ escapeCell message := by
  induction message with
  | nil => exact List.not_mem_nil
  | cons c message ih =>
    rw [escapeCell_cons, List.mem_append, not_or]
    refine ⟨?_, ih⟩
    split
    · decide
    · split
      · decide
      · simpa [eq_comm] using ‹¬ c = '\n'›

theorem backslash_notMem_displayPath (path : Path) : '\\' ∉ displayPath path none := by
  rw [displayPath_none, shownPath]
  split
  · decide
  · rw [List.mem_map]
    rintro ⟨c, -, hc⟩
    split at hc
    · cases hc
    · contradiction

theorem count_displayPath {c : Char} (path : Path) (hc : c ∉ ['.', '/', '\\']) :
    (displayPath path none).count c = path.count c := by
  simp only [List.mem_cons, List.not_mem_nil, or_false, not_or] at hc
  obtain ⟨hdot, hslash, hbackslash⟩ := hc
  rw [displayPath_none, shownPath]
  split
  · next hempty =>
    rw [hempty, List.count_singleton]
    simp [Ne.symm hdot]
  · rw [List.count_eq_countP, List.count_eq_countP, List.countP_map]
    refine List.countP_congr fun d _ => ?_
    by_cases hd : d = '\\'
    · simp [hd, Ne.symm hslash, Ne.symm hbackslash]
    · simp [hd]

/-- The parts of a row before its message. -/
def frontPieces (v : Violation) : List Text :=
  ["| ", emoji v.severity, " | \x60", displayPath v.path none, "\x60 | ", Text.ofNat v.line,
    " | \x60", v.rule.id, "\x60 | "]

theorem tableRow_eq (v : Violation) :
    tableRow v = Text.concat (frontPieces v) ++ (escapeCell v.message ++ " |".toList) := by
  refine (Text.concat_append (frontPieces v) [escapeCell v.message, " |"]).trans ?_
  rw [Text.concat_cons (escapeCell _), Text.concat_cons]
  rfl

/-- The identifier of a rule consists of small letters, hyphens and slashes. -/
theorem isLetter_of_mem_id {rule : Rule} {c : Char} (h : c ∈ rule.id) :
    97 ≤ c.toNat ∧ c.toNat ≤ 122 ∨ c = '-' ∨ c = '/' := by
  have hall : ∀ c ∈ rule.id, 97 ≤ c.toNat ∧ c.toNat ≤ 122 ∨ c = '-' ∨ c = '/' := by
    cases rule <;> decide
  exact hall c h

theorem isPlain_id (rule : Rule) : IsPlain rule.id := by
  intro c hc
  rcases isLetter_of_mem_id hc with hletter | rfl | rfl
  · omega
  all_goals decide

theorem backslash_notMem_front (v : Violation) : '\\' ∉ Text.concat (frontPieces v) := by
  refine Text.notMem_concat ?_
  simp only [frontPieces, List.forall_mem_cons]
  refine ⟨?_, ?icon, ?_, ?path, ?_, ?line, ?_, ?rule, ?_, ?_⟩
  case icon => cases v.severity <;> decide
  case path => exact backslash_notMem_displayPath v.path
  case line => exact Text.notMem_ofNat (by decide) v.line
  case rule => exact fun hc => absurd (isLetter_of_mem_id hc) (by decide)
  all_goals decide

/-- Of the parts of a row before its message, only the path has bars that are not the table's. -/
theorem count_front (v : Violation) :
    (Text.concat (frontPieces v)).count '|' = 5 + v.path.count '|' := by
  have hicon : (emoji v.severity).count '|' = 0 := by cases v.severity <;> decide
  have hpath := count_displayPath v.path (show '|' ∉ ['.', '/', '\\'] by decide)
  have hline : (Text.ofNat v.line).count '|' = 0 :=
    List.count_eq_zero.mpr (Text.notMem_ofNat (by decide) v.line)
  have hrule : v.rule.id.count '|' = 0 := List.count_eq_zero.mpr fun hbar =>
    absurd (isLetter_of_mem_id hbar) (by decide)
  have hmarks : List.count '|' "| ".toList = 1 ∧ List.count '|' " | \x60".toList = 1 ∧
    List.count '|' "\x60 | ".toList = 1 := by decide
  rw [Text.concat, List.count_flatten]
  simp only [frontPieces, List.map_cons, List.map_nil, List.sum_cons, List.sum_nil, hicon, hpath,
    hline, hrule, hmarks]
  omega

theorem bareBars_tableRow (v : Violation) : bareBars (tableRow v) = 6 + v.path.count '|' := by
  have hfront : bareBarsFrom none (Text.concat (frontPieces v)) = 5 + v.path.count '|' := by
    rw [bareBarsFrom_of_notMem (backslash_notMem_front v) (by decide), count_front]
  have hend (before : Option Char) : bareBarsFrom before " |".toList = 1 := rfl
  rw [bareBars, tableRow_eq, bareBarsFrom_append, hfront, bareBarsFrom_append,
    bareBarsFrom_escapeCell, hend]
  omega

theorem mem_displayPath_iff {c : Char} (path : Path) (hc : c ∉ ['.', '/', '\\']) :
    c ∈ displayPath path none ↔ c ∈ path := by
  rw [← List.count_pos_iff, ← List.count_pos_iff, count_displayPath path hc]

theorem newline_mem_displayPath_iff (path : Path) :
    '\n' ∈ displayPath path none ↔ '\n' ∈ path := mem_displayPath_iff path (by decide)

theorem newline_mem_tableRow_iff : '\n' ∈ tableRow v ↔ '\n' ∈ v.path := by
  have hpath := newline_mem_displayPath_iff v.path
  have hicon : '\n' ∉ emoji v.severity := by cases v.severity <;> decide
  have hmarks : '\n' ∉ "| ".toList ∧ '\n' ∉ " | \x60".toList ∧ '\n' ∉ "\x60 | ".toList ∧
    '\n' ∉ " |".toList := by decide
  rw [tableRow_eq, Text.concat, List.mem_append, List.mem_append, List.mem_flatten]
  simp only [frontPieces, List.mem_cons, List.not_mem_nil, or_false, exists_eq_or_imp,
    exists_eq_left, hicon, hpath, hmarks, (isPlain_ofNat v.line).newline_notMem,
    (isPlain_id v.rule).newline_notMem, newline_notMem_escapeCell, or_false, false_or]

/-- No line of the head but the last is the one that ends it. -/
theorem exists_tableHead (summary : Violation.Summary) :
    ∃ upper, tableHead summary = upper ++ [separatorLine] ∧
      ∀ line ∈ upper, (line != separatorLine) = true := by
  refine ⟨["## doc-guard report", "", tableHeadline summary, "",
    "| | File | Line | Rule | Message |"], rfl, ?_⟩
  have hheadline : (tableHeadline summary != separatorLine) = true := by
    rw [bne_iff_ne]
    exact fun h => absurd (show some 'F' = some '|' from congrArg List.head? h) (by decide)
  simp only [List.forall_mem_cons]
  exact ⟨by decide, by decide, hheadline, by decide, by decide, by decide⟩

theorem rowLines_markdown (h : violations ≠ []) :
    rowLines (markdown violations) =
      (violations.map tableRow).flatMap (Text.splitOnChar '\n') := by
  have hhead := flatMap_splitOnChar_tableHead (Violation.summarize violations)
  have hrows := Text.splitOnChar_unlines_append (violations.map tableRow) []
  rw [List.append_nil] at hrows
  obtain ⟨upper, hupper, hne⟩ := exists_tableHead (Violation.summarize violations)
  rw [rowLines, markdown_eq h, Text.splitOnChar_unlines_append, hhead, hrows, hupper,
    List.append_assoc, List.dropWhile_append_of_pos hne, List.singleton_append,
    List.dropWhile_cons_of_neg (by simp), List.tail_cons]
  exact List.dropLast_concat

/-- The table has one row for each finding, in order and each of five cells, if and only if no path
holds a bar or a line feed. -/
theorem forall₂_isRow_iff (h : violations ≠ []) :
    List.Forall₂ IsRow violations (rowLines (markdown violations)) ↔
      ∀ v ∈ violations, '|' ∉ v.path ∧ '\n' ∉ v.path := by
  rw [rowLines_markdown h]
  constructor
  · intro hrows
    have hlines : violations.map tableRow =
        (violations.map tableRow).flatMap (Text.splitOnChar '\n') := by
      rw [← List.forall₂_eq_eq_eq, List.forall₂_map_left_iff]
      exact hrows.imp fun v _ hrow => (tableRow_eq_rowOf v).trans hrow.line_eq.symm
    intro v hv
    have hmem : tableRow v ∈ (violations.map tableRow).flatMap (Text.splitOnChar '\n') :=
      hlines ▸ List.mem_map_of_mem hv
    -- A row that is a line of the report holds no line feed.
    obtain ⟨line, -, hpart⟩ := List.mem_flatMap.mp hmem
    rw [← hlines, List.forall₂_map_right_iff, List.forall₂_same] at hrows
    have hbars := (hrows v hv).bareBars_eq
    rw [bareBars_tableRow, Nat.add_eq_left, List.count_eq_zero] at hbars
    exact ⟨hbars, newline_mem_tableRow_iff.not.mp (Text.notMem_of_mem_splitOnChar hpart)⟩
  · intro hpaths
    have hlines : (violations.map tableRow).flatMap (Text.splitOnChar '\n') =
        violations.map tableRow := by
      refine Text.flatMap_splitOnChar fun line hline => ?_
      obtain ⟨v, hv, rfl⟩ := List.mem_map.mp hline
      exact newline_mem_tableRow_iff.not.mpr (hpaths v hv).2
    rw [hlines, List.forall₂_map_right_iff, List.forall₂_same]
    intro v hv
    refine ⟨tableRow_eq_rowOf v, ?_⟩
    rw [bareBars_tableRow, List.count_eq_zero.mpr (hpaths v hv).1]

/-- A finding whose message and path hold bars, backslashes and line feeds as far as a table bears
them. -/
def piercedViolation : Violation :=
  ⟨"src\\a b.ts", 7, .error, .paramTag, "one \\| two |\n three \\", true⟩

theorem forall₂_isRow_iff_pierced :
    [piercedViolation, piercedViolation] ≠ [] ∧
      List.Forall₂ IsRow [piercedViolation, piercedViolation]
        (rowLines (markdown [piercedViolation, piercedViolation])) :=
  ⟨by decide, (forall₂_isRow_iff (by decide)).mpr (by decide)⟩

/-- A finding in a file with a bar in its name. -/
def barredPathViolation : Violation := ⟨"a|b.ts", 3, .warning, .todo, "TODO comment found", true⟩

/-- The bar in the path ends a cell, and the row has six. -/
theorem bareBars_barredPath :
    (rowLines (markdown [barredPathViolation])).map bareBars = [7] ∧
      ¬ List.Forall₂ IsRow [barredPathViolation] (rowLines (markdown [barredPathViolation])) := by
  have hbars : (rowLines (markdown [barredPathViolation])).map bareBars = [7] := by decide +kernel
  refine ⟨hbars, fun hrows => ?_⟩
  obtain ⟨line, rest, hrow, -, hlines⟩ := List.forall₂_cons_left_iff.mp hrows
  rw [hlines, List.map_cons, hrow.bareBars_eq] at hbars
  exact absurd (List.cons.inj hbars).1 (by decide)

end ChangeReview.Report
