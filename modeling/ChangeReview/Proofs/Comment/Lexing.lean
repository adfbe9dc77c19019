import ChangeReview.Proofs.Comment.Reading
import ChangeReview.Proofs.Text.Written

/-!
# Comments of a whole text

The lines of a file are read one by one, byte by byte, and only whether a block comment is open goes
over from a line to the next. `Comment.lex` reads the text of all lines once, character by character,
and takes a line feed for a character like any other. `Comment.startsOpen_eq_lex` says that both find
the same lines to begin inside a comment.
-/

namespace ChangeReview.Comment

/-- Where the reading of a text stands. -/
inductive LexState where
  | code
  | literal (quote : Char)
  | lineComment
  | blockComment
  deriving DecidableEq, Repr

/-- The state after the rest of a text. The star of `/*` is used up, so that it is no part of `*/`; a
backslash in a literal takes the next character with it; a line feed ends literals and line comments,
also behind a backslash. -/
def lex : LexState → Text → LexState
  | state, [] => state
  | .code, '/' :: '/' :: rest => lex .lineComment rest
  | .code, '/' :: '*' :: rest => lex .blockComment rest
  | .code, c :: rest => if Nesting.isQuote c then lex (.literal c) rest else lex .code rest
  | .literal _, '\n' :: rest => lex .code rest
  | .literal _, '\\' :: '\n' :: rest => lex .code rest
  | .literal quote, '\\' :: _ :: rest => lex (.literal quote) rest
  | .literal quote, c :: rest => if c = quote then lex .code rest else lex (.literal quote) rest
  | .lineComment, '\n' :: rest => lex .code rest
  | .lineComment, _ :: rest => lex .lineComment rest
  | .blockComment, '*' :: '/' :: rest => lex .code rest
  | .blockComment, _ :: rest => lex .blockComment rest

/-- The state at the start of a line. -/
def LexState.ofOpen (isOpen : Bool) : LexState := if isOpen then .blockComment else .code

/-- The state that a reading stands for, and the characters that `lex` has yet to see together with
the next one. -/
def Reading.lexed : Reading → LexState × Text
  | .code => (.code, [])
  | .slash => (.code, ['/'])
  | .literal quote => (.literal quote, [])
  | .escape quote => (.literal quote, ['\\'])
  | .lineComment => (.lineComment, [])
  | .comment => (.blockComment, [])
  | .star => (.blockComment, ['*'])

variable {reading : Reading} {c : Char}

/-! ## A character -/

theorem lex_code (hslash : c ≠ '/') (rest : Text) :
    lex .code (c :: rest) = if Nesting.isQuote c then lex (.literal c) rest else lex .code rest := by
  rw [lex] <;> simp [hslash]

theorem lex_slash (hslash : c ≠ '/') (hstar : c ≠ '*') (rest : Text) :
    lex .code ('/' :: c :: rest) = lex .code (c :: rest) := by
  rw [lex] <;> simp [hslash, hstar, Nesting.isQuote]

theorem lex_literal {quote : Char} (hnewline : c ≠ '\n') (hescape : c ≠ '\\') (rest : Text) :
    lex (.literal quote) (c :: rest) =
      if c = quote then lex .code rest else lex (.literal quote) rest := by
  rw [lex] <;> simp [hnewline, hescape]

theorem lex_escape (quote : Char) (hnewline : c ≠ '\n') (rest : Text) :
    lex (.literal quote) ('\\' :: c :: rest) = lex (.literal quote) rest := by
  rw [lex]
  simp [hnewline]

theorem lex_lineComment (hnewline : c ≠ '\n') (rest : Text) :
    lex .lineComment (c :: rest) = lex .lineComment rest := by
  rw [lex]
  simp [hnewline]

theorem lex_blockComment (hstar : c ≠ '*') (rest : Text) :
    lex .blockComment (c :: rest) = lex .blockComment rest := by
  rw [lex]
  simp [hstar]

theorem lex_star (hslash : c ≠ '/') (rest : Text) :
    lex .blockComment ('*' :: c :: rest) = lex .blockComment (c :: rest) := by
  rw [lex]
  simp [hslash]

/-- Reading one more character of a line comes to the same. -/
theorem lex_next (hquotes : reading.QuotesOnly) (hnewline : c ≠ '\n') (rest : Text) :
    lex reading.lexed.1 (reading.lexed.2 ++ c :: rest) =
      lex (reading.next c).lexed.1 ((reading.next c).lexed.2 ++ rest) := by
  cases reading with
  | code =>
    by_cases hslash : c = '/'
    · subst hslash
      rfl
    · simp only [Reading.lexed, List.nil_append, lex_code hslash, Reading.next, if_neg hslash]
      split <;> rfl
  | slash =>
    by_cases hslash : c = '/'
    · subst hslash
      rfl
    by_cases hstar : c = '*'
    · subst hstar
      rfl
    simp only [Reading.lexed, List.cons_append, List.nil_append, lex_slash hslash hstar,
      lex_code hslash, Reading.next, if_neg hslash, if_neg hstar]
    split <;> rfl
  | literal quote =>
    by_cases hescape : c = '\\'
    · subst hescape
      rfl
    simp only [Reading.lexed, List.nil_append, lex_literal hnewline hescape, Reading.next,
      if_neg hescape]
    split <;> rfl
  | escape quote => exact lex_escape quote hnewline rest
  | lineComment => exact lex_lineComment hnewline rest
  | comment =>
    by_cases hstar : c = '*'
    · subst hstar
      rfl
    simp only [Reading.lexed, List.nil_append, lex_blockComment hstar, Reading.next, if_neg hstar]
  | star =>
    by_cases hslash : c = '/'
    · subst hslash
      rfl
    by_cases hstar : c = '*'
    · subst hstar
      rfl
    simp only [Reading.lexed, List.cons_append, List.nil_append, lex_star hslash,
      lex_blockComment hstar, Reading.next, if_neg hslash, if_neg hstar]

/-! ## A line -/

/-- The line feed behind a line leaves nothing open but a block comment. -/
theorem lex_newline (reading : Reading) (rest : Text) :
    lex reading.lexed.1 (reading.lexed.2 ++ '\n' :: rest) = lex (.ofOpen reading.isOpen) rest := by
  cases reading <;> rfl

theorem lex_line (hquotes : reading.QuotesOnly) {line : Text} (hline : '\n' ∉ line) (rest : Text) :
    lex reading.lexed.1 (reading.lexed.2 ++ (line ++ '\n' :: rest)) =
      lex (.ofOpen (reading.after line).isOpen) rest := by
  induction line generalizing reading with
  | nil => exact lex_newline reading rest
  | cons c line ih =>
    rw [List.mem_cons, not_or] at hline
    rw [List.cons_append, lex_next hquotes (Ne.symm hline.1),
      ih (Reading.quotesOnly_next hquotes c) hline.2, Reading.after_cons]

theorem lex_line_ofOpen (isOpen : Bool) {line : Text} (hline : '\n' ∉ line) (rest : Text) :
    lex (.ofOpen isOpen) (line ++ '\n' :: rest) = lex (.ofOpen (openAfter isOpen line)) rest := by
  have hstart := lex_line (Reading.quotesOnly_ofOpen isOpen) hline rest
  rw [openAfter_eq, ← hstart]
  cases isOpen <;> rfl

/-! ## All lines -/

theorem lex_unlines (isOpen : Bool) {lines : List Text} (hlines : ∀ line ∈ lines, '\n' ∉ line) :
    lex (.ofOpen isOpen) (Text.unlines lines) = .ofOpen (openAfterLines isOpen lines) := by
  induction lines generalizing isOpen with
  | nil => cases isOpen <;> rfl
  | cons line lines ih =>
    obtain ⟨hline, hlines⟩ := List.forall_mem_cons.mp hlines
    rw [Text.unlines_cons, lex_line_ofOpen isOpen hline, ih _ hlines, openAfterLines_cons]

/-- A line begins inside a comment if the text of the lines above it, read at one go, ends in one. -/
theorem startsOpen_eq_lex {lines : List Text} (hlines : ∀ line ∈ lines, '\n' ∉ line) {index : Nat}
    (hindex : index < lines.length) :
    (startsOpen lines)[index]? =
      some (decide (lex .code (Text.unlines (lines.take index)) = .blockComment)) := by
  have habove : ∀ line ∈ lines.take index, '\n' ∉ line := by
    intro line hline
    exact hlines line (List.mem_of_mem_take hline)
  have hstate : lex .code (Text.unlines (lines.take index)) = _ := lex_unlines false habove
  rw [getElem?_startsOpen hindex, hstate]
  cases openAfterLines false (lines.take index) <;> rfl

/-- A literal whose line ends behind a backslash, an opener whose star closes nothing, and on one line
a closer, an opener in a literal with an escaped quote, and an opener. -/
def reopenedLines : List Text := ["let s = 'é\\", "/*/ // '", "*é*/ x = `é\\`/*`; /*", "*/"]

theorem startsOpen_eq_lex_reopened :
    (∀ line ∈ reopenedLines, '\n' ∉ line) ∧ 3 < reopenedLines.length ∧
      lex .code (Text.unlines (reopenedLines.take 3)) = .blockComment ∧
      (startsOpen reopenedLines)[3]? = some true := by
  have hlines : ∀ line ∈ reopenedLines, '\n' ∉ line := by decide
  have hindex : 3 < reopenedLines.length := by decide
  have hstate : lex .code (Text.unlines (reopenedLines.take 3)) = .blockComment := by decide
  refine ⟨hlines, hindex, hstate, ?_⟩
  rw [startsOpen_eq_lex hlines hindex, decide_eq_true hstate]

end ChangeReview.Comment
