import ChangeReview.Proofs.Report.Table
import ChangeReview.Proofs.Violation.Files
import ChangeReview.Report.Notice

/-!
# Colours

A coloured report is the uncoloured one with colour sequences in it, each of which is switched off
on its line. `Color.Paints` says this of a part of a line: it is kept when parts are joined, so that
`Report.isDecorated_reports` is shown part by part.

## Main definitions

- `Color.strip`: a text without its colour sequences.
- `Color.Closes`: the colours of a line end on it.
- `Color.IsDecorated`: a text is another one with colours.
-/

namespace ChangeReview

namespace Color

/-- The text without its colour sequences, where `inside` says whether one has begun. A sequence
goes from an escape character with a bracket behind it to the next `m`. -/
def stripFrom (inside : Bool) : Text → Text
  | [] => []
  | c :: rest =>
    if inside then stripFrom (c != 'm') rest
    else if c = '\x1b' ∧ headIs '[' rest = true then stripFrom true rest
    else c :: stripFrom false rest

/-- The text without its colour sequences. -/
def strip (text : Text) : Text := stripFrom false text

example : strip "a \x1b[1m\x1b[31mb [1m\x1b[0m c" = "a b [1m c".toList := by decide

/-- A reset stands at or behind each escape character of the line. -/
def Closes (line : Text) : Prop :=
  ∀ before after, line = before ++ '\x1b' :: after → reset <:+: '\x1b' :: after

/-- The text has no escape characters and no line feeds. -/
def IsUnmarked (text : Text) : Prop := '\x1b' ∉ text ∧ '\n' ∉ text

instance : DecidablePred IsUnmarked := fun text =>
  inferInstanceAs (Decidable ('\x1b' ∉ text ∧ '\n' ∉ text))

/-- A part of a line is another one with colours that end in it. -/
structure Paints (painted plain : Text) : Prop where
  strip_append : ∀ rest, strip (painted ++ rest) = plain ++ strip rest
  closes : Closes painted
  newline_notMem : '\n' ∉ painted
  escape_notMem : '\x1b' ∉ plain

/-- A text is another one, which has no escape characters, with colours that end on their lines. -/
structure IsDecorated (colored plain : Text) : Prop where
  strip_eq : strip colored = plain
  closes : ∀ line ∈ Text.splitOnChar '\n' colored, Closes line
  escape_notMem : '\x1b' ∉ plain

variable {text line : Text}

/-! ## Stripping -/

theorem strip_cons_of_ne {c : Char} (hc : c ≠ '\x1b') (rest : Text) :
    strip (c :: rest) = c :: strip rest := by
  rw [strip, stripFrom, if_neg Bool.false_ne_true, if_neg fun h => hc h.1, strip]

theorem strip_append_of_notMem (h : '\x1b' ∉ text) (rest : Text) :
    strip (text ++ rest) = text ++ strip rest := by
  induction text with
  | nil => rfl
  | cons c text ih =>
    rw [List.mem_cons, not_or] at h
    rw [List.cons_append, strip_cons_of_ne (Ne.symm h.1), ih h.2, List.cons_append]

theorem strip_start_append (color : Color) (rest : Text) :
    strip (color.start ++ rest) = strip rest := by
  cases color <;> rfl

/-! ## Closing -/

theorem Closes.of_notMem (h : '\x1b' ∉ line) : Closes line := by
  rintro before after rfl
  exact absurd (List.mem_append_right before List.mem_cons_self) h

/-- An escape character in the first part has its reset in that part, whatever follows. -/
theorem Closes.append {a b : Text} (ha : Closes a) (hb : Closes b) : Closes (a ++ b) := by
  intro before after hline
  rcases List.append_eq_append_iff.mp hline with ⟨rest, -, hrest⟩ | ⟨rest, hrest, hafter⟩
  · exact hb rest after hrest
  · cases rest with
    | nil => exact hb [] after hafter.symm
    | cons c rest =>
      rw [List.cons_append, List.cons.injEq] at hafter
      obtain ⟨rfl, rfl⟩ := hafter
      exact (ha before rest hrest).trans (List.prefix_append _ b).isInfix

/-- A reset at the end closes all colours before it. -/
theorem closes_append_reset (text : Text) : Closes (text ++ reset) := by
  intro before after hline
  rcases List.append_eq_append_iff.mp hline with ⟨rest, -, hrest⟩ | ⟨rest, -, hafter⟩
  · -- The only escape character of a reset is its first character.
    cases rest with
    | nil => exact hrest ▸ List.infix_rfl
    | cons c rest =>
      have htail : reset.tail = rest ++ '\x1b' :: after := congrArg List.tail hrest
      have hmem : '\x1b' ∈ reset.tail := htail ▸ List.mem_append_right rest List.mem_cons_self
      exact absurd hmem (by decide)
  · exact hafter ▸ (List.suffix_append rest reset).isInfix

/-! ## Painting -/

theorem Paints.of_isUnmarked (h : IsUnmarked text) : Paints text text where
  strip_append := strip_append_of_notMem h.1
  closes := .of_notMem h.1
  newline_notMem := h.2
  escape_notMem := h.1

theorem Paints.append {a b a' b' : Text} (ha : Paints a a') (hb : Paints b b') :
    Paints (a ++ b) (a' ++ b') where
  strip_append rest := by
    rw [List.append_assoc, ha.strip_append, hb.strip_append, List.append_assoc]
  closes := ha.closes.append hb.closes
  newline_notMem := List.mem_append.not.mpr (not_or.mpr ⟨ha.newline_notMem, hb.newline_notMem⟩)
  escape_notMem := List.mem_append.not.mpr (not_or.mpr ⟨ha.escape_notMem, hb.escape_notMem⟩)

theorem Paints.concat {painted plain : List Text} (h : List.Forall₂ Paints painted plain) :
    Paints (Text.concat painted) (Text.concat plain) := by
  induction h with
  | nil => exact .of_isUnmarked (by decide)
  | cons hpart _ ih => exact hpart.append ih

/-- A text behind colours and before a reset. -/
theorem Paints.of_starts (colors : List Color) (h : IsUnmarked text) :
    Paints (Text.concat (colors.map start ++ [text, reset])) text where
  strip_append rest := by
    induction colors with
    | nil =>
      rw [List.map_nil, List.nil_append, Text.concat_cons, List.append_assoc,
        strip_append_of_notMem h.1]
      rfl
    | cons color colors ih =>
      rw [List.map_cons, List.cons_append, Text.concat_cons, List.append_assoc, strip_start_append,
        ih]
  closes := by
    have hreset : colors.map start ++ [text, reset] = (colors.map start ++ [text]) ++ [reset] := by
      rw [List.append_assoc]
      rfl
    rw [hreset, Text.concat_append]
    exact closes_append_reset _
  newline_notMem := by
    have hstart : ∀ color : Color, '\n' ∉ color.start := fun color => by cases color <;> decide
    refine Text.notMem_concat (List.forall_mem_append.mpr ⟨fun piece hpiece => ?_, ?_⟩)
    · obtain ⟨color, -, rfl⟩ := List.mem_map.mp hpiece
      exact hstart color
    · simp only [List.forall_mem_cons]
      exact ⟨h.2, by decide, nofun⟩
  escape_notMem := h.1

theorem Paints.paint (color : Color) (h : IsUnmarked text) :
    Paints (color.paint true text) (color.paint false text) := .of_starts [color] h

/-- Lines with colours make a text with colours. -/
theorem isDecorated_unlines {painted plain : List Text} (h : List.Forall₂ Paints painted plain) :
    IsDecorated (Text.unlines painted) (Text.unlines plain) where
  strip_eq := by
    induction h with
    | nil => rfl
    | cons hline _ ih =>
      rw [Text.unlines_cons, Text.unlines_cons, hline.strip_append,
        strip_cons_of_ne (by decide), ih]
  closes := by
    have hlines : ∀ line ∈ painted, '\n' ∉ line ∧ Closes line := by
      induction h with
      | nil => exact nofun
      | cons hline _ ih => exact List.forall_mem_cons.mpr ⟨⟨hline.newline_notMem, hline.closes⟩, ih⟩
    rw [Text.splitOnChar_unlines fun line hline => (hlines line hline).1]
    exact List.forall_mem_append.mpr
      ⟨fun line hline => (hlines line hline).2, List.forall_mem_singleton.mpr (.of_notMem nofun)⟩
  escape_notMem := by
    induction h with
    | nil => exact nofun
    | cons hline _ ih =>
      rw [Text.unlines_cons, List.mem_append, List.mem_cons, not_or, not_or]
      exact ⟨hline.escape_notMem, by decide, ih⟩

end Color

namespace Report

open Color

variable {violations : List Violation} {v : Violation}

/-! ## Texts without marks -/

theorem IsPlain.isUnmarked {text : Text} (h : IsPlain text) : IsUnmarked text :=
  ⟨fun hc => absurd (h _ hc).1 (by decide), h.newline_notMem⟩

theorem isUnmarked_displayPath {path : Path} (h : IsUnmarked path) :
    IsUnmarked (displayPath path none) :=
  ⟨(mem_displayPath_iff path (by decide)).not.mpr h.1,
    (newline_mem_displayPath_iff path).not.mpr h.2⟩

theorem isUnmarked_concat {pieces : List Text} (h : ∀ piece ∈ pieces, IsUnmarked piece) :
    IsUnmarked (Text.concat pieces) :=
  ⟨Text.notMem_concat fun piece hpiece => (h piece hpiece).1,
    Text.notMem_concat fun piece hpiece => (h piece hpiece).2⟩

theorem isUnmarked_ofNat (n : Nat) : IsUnmarked (Text.ofNat n) := (isPlain_ofNat n).isUnmarked

theorem isUnmarked_alignRight {text : Text} (h : IsUnmarked text) (width : Nat) :
    IsUnmarked (alignRight width text) := by
  have hblank {c : Char} (hc : c ∈ List.replicate (width - text.length) ' ') : c = ' ' :=
    List.eq_of_mem_replicate hc
  constructor
  · rw [alignRight, List.mem_append, not_or]
    exact ⟨fun hc => absurd (hblank hc) (by decide), h.1⟩
  · rw [alignRight, List.mem_append, not_or]
    exact ⟨fun hc => absurd (hblank hc) (by decide), h.2⟩

/-! ## The text report -/

theorem paints_violationLine (h : IsUnmarked v.message) :
    Paints (violationLine true v) (violationLine false v) := by
  have hlabel : IsUnmarked (Text.concat [icon v.severity, " ", v.severity.name]) := by
    cases v.severity <;> decide
  have hnumber := isUnmarked_alignRight (isUnmarked_ofNat v.line) 4
  refine .concat ?_
  simp only [List.forall₂_cons]
  refine ⟨?_, .of_isUnmarked hnumber, ?_, .paint _ hlabel, ?_, .of_isUnmarked h, ?_,
    .paint _ (isPlain_id v.rule).isUnmarked, .nil⟩
  all_goals exact .of_isUnmarked (by decide)

theorem paints_summaryLine (summary : Violation.Summary) :
    Paints (summaryLine true summary) (summaryLine false summary) := by
  have hnumber := isUnmarked_ofNat
  rw [summaryLine, summaryLine]
  split
  · exact .paint _ (by decide)
  · refine .concat ?_
    simp only [List.forall₂_cons]
    refine ⟨?_, .of_isUnmarked (hnumber _), ?_, .of_isUnmarked (hnumber _), ?files,
      .paint _ (hnumber _), ?_, .paint _ (hnumber _), ?_, .nil⟩
    case files => split <;> exact .of_isUnmarked (by decide)
    all_goals exact .of_isUnmarked (by decide)

theorem forall₂_paints_fileLines {path : Path} (hpath : IsUnmarked path)
    (hmessages : ∀ v ∈ violations, IsUnmarked v.message) :
    List.Forall₂ Paints (fileLines true violations path) (fileLines false violations path) := by
  have hlines : List.Forall₂ Paints
      ((violations.filter (Path.same path ·.path)).map (violationLine true))
      ((violations.filter (Path.same path ·.path)).map (violationLine false)) := by
    rw [List.forall₂_map_left_iff, List.forall₂_map_right_iff, List.forall₂_same]
    exact fun v hv => paints_violationLine (hmessages v (List.mem_filter.mp hv).1)
  exact .cons (.paint _ (isUnmarked_displayPath hpath))
    (List.rel_append hlines (.cons (.of_isUnmarked (by decide)) .nil))

theorem isDecorated_text (h : ∀ v ∈ violations, IsUnmarked v.path ∧ IsUnmarked v.message) :
    IsDecorated (text true violations) (text false violations) := by
  refine isDecorated_unlines (List.rel_append ?_ (.cons (paints_summaryLine _) .nil))
  have hpaths : ∀ path ∈ Violation.files violations, IsUnmarked path := by
    intro path hpath
    obtain ⟨v, hv, rfl⟩ := (Violation.firstSpellings_files violations).exists_path hpath
    exact (h v hv).1
  rw [List.flatMap, List.flatMap]
  refine List.rel_flatten ?_
  rw [List.forall₂_map_left_iff, List.forall₂_map_right_iff, List.forall₂_same]
  exact fun path hpath => forall₂_paints_fileLines (hpaths path hpath) fun v hv => (h v hv).2

/-! ## Notices -/

variable {icon heading message : Text} {detail suggestion : Option Text}

theorem paints_noticeHead (tint : Color) (hicon : IsUnmarked icon) (hheading : IsUnmarked heading)
    (hmessage : IsUnmarked message) :
    Paints (noticeHead true tint icon heading message)
      (noticeHead false tint icon heading message) := by
  have hlabel : IsUnmarked (Text.concat [icon, " ", heading, ":"]) := by
    refine isUnmarked_concat ?_
    simp only [List.forall_mem_cons]
    exact ⟨hicon, by decide, hheading, by decide, nofun⟩
  refine .concat ?_
  simp only [List.forall₂_cons]
  exact ⟨.of_starts [bold, tint] hlabel, .of_isUnmarked (by decide), .of_isUnmarked hmessage, .nil⟩

/-- A notice without marks in its texts is decorated by its colours, whatever its tint. -/
theorem isDecorated_notice (tint : Color) (hicon : IsUnmarked icon) (hheading : IsUnmarked heading)
    (hmessage : IsUnmarked message) (hdetail : ∀ text ∈ detail, IsUnmarked text)
    (hsuggestion : ∀ text ∈ suggestion, IsUnmarked text) :
    IsDecorated (Text.unlines (noticeLines true tint icon heading message detail suggestion))
      (Text.unlines (noticeLines false tint icon heading message detail suggestion)) := by
  have hmarked : ∀ text ∈ detail, IsUnmarked (Text.concat ["× ", text]) := by
    intro text htext
    refine isUnmarked_concat ?_
    simp only [List.forall_mem_cons]
    exact ⟨by decide, hdetail text htext, nofun⟩
  refine isDecorated_unlines (.cons (paints_noticeHead tint hicon hheading hmessage)
    (List.rel_append ?_ ?_))
  · rw [List.forall₂_map_left_iff, List.forall₂_map_right_iff, List.forall₂_same]
    intro text htext
    refine .concat ?_
    simp only [List.forall₂_cons]
    exact ⟨.of_isUnmarked (by decide), .paint _ (hmarked text (Option.mem_toList.mp htext)), .nil⟩
  · rw [List.forall₂_map_left_iff, List.forall₂_map_right_iff, List.forall₂_same]
    intro text htext
    have hhelp := hsuggestion text (Option.mem_toList.mp htext)
    refine .concat ?_
    simp only [List.forall₂_cons]
    exact ⟨.of_isUnmarked (by decide), .paint _ (by decide), .of_isUnmarked (by decide),
      .of_isUnmarked hhelp, .nil⟩

theorem isUnmarked_category (failure : Failure) : IsUnmarked failure.category := by
  have hwords : ∀ word ∈ ["Config", "FileRead", "IO", "Git", "Review"], IsUnmarked word.toList := by
    decide
  cases failure <;> exact hwords _ (by decide)

theorem isUnmarked_fileSuggestion (kind : FileFault.Kind) :
    ∀ text ∈ Failure.fileSuggestion kind, IsUnmarked text := by
  cases kind <;> decide +kernel

theorem isUnmarked_suggestion (failure : Failure) :
    ∀ text ∈ failure.suggestion, IsUnmarked text := by
  cases failure with
  | fileRead path cause => exact isUnmarked_fileSuggestion cause.kind
  | _ => rw [Failure.suggestion]; decide +kernel

/-- Colours change nothing in a report but its looks, and end on the lines on which they begin. -/
theorem isDecorated_reports :
    (∀ violations : List Violation, (∀ v ∈ violations, IsUnmarked v.path ∧ IsUnmarked v.message) →
      IsDecorated (text true violations) (text false violations)) ∧
    (∀ (tint : Color) (icon heading message : Text) (detail suggestion : Option Text),
      IsUnmarked icon → IsUnmarked heading → IsUnmarked message →
      (∀ text ∈ detail, IsUnmarked text) → (∀ text ∈ suggestion, IsUnmarked text) →
      IsDecorated (Text.unlines (noticeLines true tint icon heading message detail suggestion))
        (Text.unlines (noticeLines false tint icon heading message detail suggestion))) ∧
    (∀ cause : Failure, IsUnmarked cause.message → (∀ text ∈ cause.detail, IsUnmarked text) →
      IsDecorated (failure true cause) (failure false cause)) ∧
    ∀ (message : Text) (suggestion : Option Text), IsUnmarked message →
      (∀ text ∈ suggestion, IsUnmarked text) →
      IsDecorated (warning true message suggestion) (warning false message suggestion) := by
  refine ⟨fun _ h => isDecorated_text h,
    fun tint _ _ _ _ _ hicon hheading hmessage hdetail hsuggestion =>
      isDecorated_notice tint hicon hheading hmessage hdetail hsuggestion,
    fun cause hmessage hdetail => ?_, fun message suggestion hmessage hsuggestion => ?_⟩
  · exact isDecorated_notice red (by decide) (isUnmarked_category cause) hmessage hdetail
      (isUnmarked_suggestion cause)
  · exact isDecorated_notice yellow (by decide) (by decide) hmessage nofun hsuggestion

/-- Findings of both severities in two files, in a wide column and with brackets in a message. -/
def tintedViolations : List Violation :=
  [⟨"src\\a.ts", 3, .warning, .todo, "TODO [31m left", true⟩,
    ⟨"", 12345, .error, .breakpoint, "debugger statement found", false⟩,
    ⟨"src/a.ts", 4, .error, .missingReturnType, "method: no declared return type", true⟩]

/-- A file that is named and absent. -/
def absentFile : Failure :=
  .fileRead "src/a.ts" ⟨.notFound, "No such file or directory (os error 2)"⟩

theorem isDecorated_reports_tinted :
    ((∀ v ∈ tintedViolations, IsUnmarked v.path ∧ IsUnmarked v.message) ∧
      IsDecorated (text true tintedViolations) (text false tintedViolations)) ∧
    (IsUnmarked absentFile.message ∧ (∀ text ∈ absentFile.detail, IsUnmarked text) ∧
      IsDecorated (failure true absentFile) (failure false absentFile)) ∧
    IsDecorated (warning true "no files" (some "Name a path"))
      (warning false "no files" (some "Name a path")) :=
  ⟨⟨by decide +kernel, isDecorated_reports.1 _ (by decide +kernel)⟩,
    ⟨by decide, by decide +kernel, isDecorated_reports.2.2.1 _ (by decide) (by decide +kernel)⟩,
    isDecorated_reports.2.2.2 _ _ (by decide) (by decide)⟩

end Report

end ChangeReview
