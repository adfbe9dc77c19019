import ChangeReview.Change.Hunk
import ChangeReview.Proofs.Text.Written
import ChangeReview.Scan
import ChangeReview.Style.Scan
import Mathlib.Data.List.Forall2

/-!
# Line ends

A line may end with a line feed or with a carriage return and a line feed. The lines of a file are
read without their ends, and of a line of a diff only its head is read, so that neither the findings
nor the changed lines depend on how lines end: `violations_ofDiff_withReturns`.
-/

namespace ChangeReview

namespace Text

/-- The text with a carriage return before each line feed. -/
def withReturns (text : Text) : Text := replaceChar '\n' ['\r', '\n'] text

theorem withReturns_cons (c : Char) (text : Text) :
    withReturns (c :: text) = (if c = '\n' then ['\r', '\n'] else [c]) ++ withReturns text := rfl

/-- The second line is the first, perhaps with a carriage return behind it. -/
def MayReturn (line ended : Text) : Prop := ended = line ∨ ended = line ++ ['\r']

theorem MayReturn.cons {line ended : Text} (h : MayReturn line ended) (c : Char) :
    MayReturn (c :: line) (c :: ended) :=
  h.imp (congrArg (c :: ·)) (congrArg (c :: ·))

/-- A carriage return before a line feed stays behind the line that ends there. -/
theorem forall₂_splitOnChar_withReturns (text : Text) :
    List.Forall₂ MayReturn (splitOnChar '\n' text) (splitOnChar '\n' (withReturns text)) := by
  induction text with
  | nil => exact .cons (.inl rfl) .nil
  | cons c text ih =>
    rw [withReturns_cons]
    by_cases hc : c = '\n'
    · subst hc
      have hreturn : splitOnChar '\n' ('\r' :: '\n' :: withReturns text) =
          ['\r'] :: splitOnChar '\n' (withReturns text) :=
        splitOnChar_append_separator ['\r'] (withReturns text)
      rw [splitOnChar_separator]
      exact hreturn ▸ .cons (.inr rfl) ih
    · obtain ⟨line, lines, hlines⟩ := List.exists_cons_of_ne_nil (splitOnChar_ne_nil text)
      obtain ⟨ended, endeds, hendeds⟩ :=
        List.exists_cons_of_ne_nil (splitOnChar_ne_nil (withReturns text))
      rw [hlines, hendeds, List.forall₂_cons] at ih
      rw [if_neg hc, List.singleton_append, splitOnChar_cons_of_ne hc hlines,
        splitOnChar_cons_of_ne hc hendeds]
      exact .cons (ih.1.cons c) ih.2

/-- What is read of each line without a carriage return behind it is read of all lines. -/
theorem map_splitOnChar_withReturns {α : Type} {read : Text → α} {text : Text}
    (h : ∀ line ∈ splitOnChar '\n' text, read (line ++ ['\r']) = read line) :
    (splitOnChar '\n' (withReturns text)).map read = (splitOnChar '\n' text).map read := by
  have hends := (List.forall₂_and_left _ _).mpr ⟨h, forall₂_splitOnChar_withReturns text⟩
  rw [eq_comm, ← List.forall₂_eq_eq_eq, List.forall₂_map_left_iff, List.forall₂_map_right_iff]
  refine hends.imp fun line ended ⟨hline, hended⟩ => ?_
  rcases hended with rfl | rfl
  · rfl
  · exact hline.symm

theorem dropReturn_of_notMem {line : Text} (h : '\r' ∉ line) : dropReturn line = line :=
  if_neg fun hlast => h (List.mem_of_getLast? (beq_iff_eq.mp hlast))

theorem dropReturn_append (line : Text) : dropReturn (line ++ ['\r']) = line := by
  rw [dropReturn, if_pos (beq_iff_eq.mpr List.getLast?_concat), List.dropLast_concat]

/-- Of a file without carriage returns the same lines are read. -/
theorem lines_withReturns {content : Text} (h : '\r' ∉ content) :
    lines (withReturns content) = lines content := by
  refine map_splitOnChar_withReturns fun line hline => ?_
  have hnone : '\r' ∉ line := fun hreturn => h (mem_of_mem_splitOnChar hline hreturn)
  rw [dropReturn_append, dropReturn_of_notMem hnone]

end Text

/-! ## Hunk headers -/

namespace NewSide

theorem takeDigits?_append_return (text : Text) :
    takeDigits? (text ++ ['\r']) =
      (takeDigits? text).map fun (digits, rest) => (digits, rest ++ ['\r']) := by
  have hreturn : isDecimalDigit '\r' = false := by decide
  have hhead : (text ++ ['\r']).head?.any isDecimalDigit = text.head?.any isDecimalDigit := by
    cases text with
    | nil => exact hreturn
    | cons c text => rfl
  have htake : (text ++ ['\r']).takeWhile isDecimalDigit = text.takeWhile isDecimalDigit := by
    rw [List.takeWhile_append, List.takeWhile_cons_of_neg (by simp [hreturn]), List.append_nil]
    split
    · next hall => exact ((List.takeWhile_prefix _).eq_of_length hall).symm
    · rfl
  have hdrop : (text ++ ['\r']).dropWhile isDecimalDigit =
      text.dropWhile isDecimalDigit ++ ['\r'] := by
    rw [List.dropWhile_append, List.dropWhile_cons_of_neg (by simp [hreturn])]
    split
    · next hempty => rw [List.isEmpty_iff.mp hempty, List.nil_append]
    · rfl
  rw [takeDigits?, takeDigits?, hhead, htake, hdrop]
  split <;> rfl

theorem takeSide?_append_return (text : Text) :
    takeSide? (text ++ ['\r']) =
      (takeSide? text).map fun (side, rest) => (side, rest ++ ['\r']) := by
  rw [takeSide?, takeSide?, takeDigits?_append_return]
  rcases takeDigits? text with _ | ⟨start, rest⟩
  · rfl
  · simp only [Option.bind_eq_bind, Option.map_some, Option.bind_some]
    cases rest with
    | nil => rfl
    | cons c rest =>
      have hcomma : headIs ',' (c :: rest ++ ['\r']) = headIs ',' (c :: rest) := rfl
      rw [hcomma, List.cons_append, List.drop_one, List.drop_one, List.tail_cons, List.tail_cons,
        takeDigits?_append_return]
      split
      · cases takeDigits? rest <;> rfl
      · rfl

theorem expect?_append_return {mark : Text} (h : '\r' ∉ mark) (text : Text) :
    expect? mark (text ++ ['\r']) = (expect? mark text).map (· ++ ['\r']) := by
  have hmark : mark ≠ text ++ ['\r'] := by
    rintro rfl
    exact h (List.mem_append_right text List.mem_cons_self)
  have hprefix : mark <+: text ++ ['\r'] ↔ mark <+: text := by
    rw [List.prefix_concat_iff, or_iff_right hmark]
  rw [expect?, expect?]
  simp only [List.isPrefixOf_iff_prefix, hprefix]
  split
  · next hstarts => rw [List.drop_append_of_le_length hstarts.length_le, Option.map_some]
  · rfl

/-- A carriage return behind a line is not read. -/
theorem ofLine?_append_return (line : Text) : ofLine? (line ++ ['\r']) = ofLine? line := by
  have hplus (text : Text) := expect?_append_return (show '\r' ∉ " +".toList by decide) text
  have hclose (text : Text) := expect?_append_return (show '\r' ∉ " @@".toList by decide) text
  rw [ofLine?, ofLine?, expect?_append_return (by decide)]
  simp only [Option.bind_eq_bind, Option.bind_map, Function.comp_def, takeSide?_append_return,
    hplus, hclose]

end NewSide

/-- The changed lines of a diff do not depend on its line ends. -/
theorem ChangedLines.ofDiff_withReturns (diff : Text) :
    ofDiff (Text.withReturns diff) = ofDiff diff := by
  have hsides : (Text.splitOnChar '\n' (Text.withReturns diff)).map NewSide.ofLine? =
      (Text.splitOnChar '\n' diff).map NewSide.ofLine? :=
    Text.map_splitOnChar_withReturns fun line _ => NewSide.ofLine?_append_return line
  have hread (text : Text) : ofDiff text =
      ⟨((Text.splitOnChar '\n' text).map NewSide.ofLine?).filterMap (·.bind NewSide.range?)⟩ := by
    rw [List.filterMap_map]
    rfl
  rw [hread, hread, hsides]

/-! ## Findings -/

variable {recognize : Recognizer} {config : Config} {table : List Style.Property} {path : Path}
  {changed : ChangedLines} {content : Text}

/-- The findings of a file without carriage returns and the changed lines of a diff remain the same
when every line is ended with a carriage return and a line feed. -/
theorem violations_ofDiff_withReturns (h : '\r' ∉ content) (diff : Text) :
    Scan.violationsWith recognize config path (Text.withReturns content) changed =
        Scan.violationsWith recognize config path content changed ∧
      Style.violations table path (Text.withReturns content) changed =
        Style.violations table path content changed ∧
      ChangedLines.ofDiff (Text.withReturns diff) = ChangedLines.ofDiff diff := by
  have hlines := Text.lines_withReturns h
  refine ⟨?_, ?_, ChangedLines.ofDiff_withReturns diff⟩
  · rw [Scan.violationsWith, Scan.violationsWith, hlines]
  · rw [Style.violations, Style.violations, hlines]

/-- A file with findings about a documented method and in its last line, which has no end. -/
def unendedContent : Text :=
  "/**\n * Runs.\n */\nrun(count: number): void \x7b\n  width: 12px;\n  debugger;"

theorem violations_ofDiff_withReturns_unended :
    '\r' ∉ unendedContent ∧
      Scan.violations {} "a.vue" (Text.withReturns unendedContent) (.wholeFile 6) =
        Scan.violations {} "a.vue" unendedContent (.wholeFile 6) ∧
      Style.violations Style.builtin "a.vue" (Text.withReturns unendedContent) (.wholeFile 6) =
        Style.violations Style.builtin "a.vue" unendedContent (.wholeFile 6) ∧
      ChangedLines.ofDiff (Text.withReturns "@@ -0,0 +1,6 @@\n+/**") =
        ChangedLines.ofDiff "@@ -0,0 +1,6 @@\n+/**" :=
  ⟨by decide, violations_ofDiff_withReturns (by decide) _⟩

end ChangeReview
