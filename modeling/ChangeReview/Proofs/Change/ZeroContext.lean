import ChangeReview.Proofs.Change.HunkHeader
import ChangeReview.Proofs.Edit.Hunks
import ChangeReview.Proofs.Text.Parts

/-!
# Diffs without context

An edit script, written as a unified diff without context, announces in its hunk headers exactly
the lines it inserts. `Edit.diff` writes a script with any preamble, any text behind the headers and
either kind of line ends; `ChangedLines.ofDiff_diff` says what is read back.
-/

namespace ChangeReview

namespace Hunk

/-- The lines of a hunk, with a text behind its header. -/
def linesWith (heading : Text) (hunk : Hunk) : List Text :=
  (hunk.header ++ heading) ::
    hunk.deleted.flatMap (bodyLine '-') ++ hunk.inserted.flatMap (bodyLine '+')

/-- The lines that a hunk adds to the new version, if any. -/
def addedRange? (hunk : Hunk) : Option LineRange :=
  if hunk.inserted = [] then none
  else some ⟨hunk.newBefore + 1, hunk.newBefore + hunk.inserted.length⟩

theorem addedRange?_eq_some_iff {hunk : Hunk} {range : LineRange} :
    hunk.addedRange? = some range ↔ hunk.inserted ≠ [] ∧
      range = ⟨hunk.newBefore + 1, hunk.newBefore + hunk.inserted.length⟩ := by
  unfold addedRange?
  split <;> simp_all [eq_comm]

theorem adds_iff {hunk : Hunk} {number : Nat} :
    hunk.Adds number ↔ ∃ range, hunk.addedRange? = some range ∧ range.contains number = true := by
  unfold addedRange? Adds
  by_cases hempty : hunk.inserted = []
  · simp [hempty]
  · simp only [hempty, ↓reduceIte, Option.some.injEq, exists_eq_left', LineRange.contains,
      Bool.and_eq_true, decide_eq_true_eq]
    rfl

theorem range?_ofHunk {hunk : Hunk}
    (hbound : (NewSide.ofHunk hunk).start + (NewSide.ofHunk hunk).count < numberBound) :
    (NewSide.ofHunk hunk).range? = hunk.addedRange? := by
  rw [NewSide.range?, wrap_of_lt (by omega)]
  unfold NewSide.ofHunk addedRange?
  cases hinserted : hunk.inserted with
  | nil => simp
  | cons line lines =>
    simp only [List.length_cons, Nat.add_one_ne_zero, ↓reduceIte, reduceCtorEq]
    rw [if_pos (by simp)]
    congr 2
    omega

/-- A hunk of changed lines without line feeds is written in lines without line feeds. -/
theorem newline_notMem_linesWith {hunk : Hunk} {heading : Text} (hheading : '\n' ∉ heading)
    (hlines : ∀ line ∈ hunk.deleted ++ hunk.inserted, '\n' ∉ line.text) :
    ∀ line ∈ hunk.linesWith heading, '\n' ∉ line := by
  have hside (before count : Nat) : '\n' ∉ side before count := by
    intro h
    rcases List.mem_append.mp h with h | h
    · exact absurd (Text.isDigit_of_mem_ofNat h) (by decide)
    · split at h
      · cases h
      · rcases List.mem_cons.mp h with h | h
        · exact absurd h (by decide)
        · exact absurd (Text.isDigit_of_mem_ofNat h) (by decide)
  have hbody {mark : Char} (hmark : mark ≠ '\n') {changed : DiffLine}
      (hchanged : changed ∈ hunk.deleted ++ hunk.inserted) :
      ∀ line ∈ bodyLine mark changed, '\n' ∉ line := by
    intro line hline
    rcases List.mem_cons.mp hline with rfl | hline
    · rw [List.mem_cons, not_or]
      exact ⟨Ne.symm hmark, hlines _ hchanged⟩
    · split at hline
      · cases hline
      · rw [List.mem_singleton.mp hline]
        decide
  intro line hline
  rw [linesWith, List.cons_append, List.mem_cons, List.mem_append, List.mem_flatMap,
    List.mem_flatMap] at hline
  rcases hline with rfl | ⟨changed, hchanged, hline⟩ | ⟨changed, hchanged, hline⟩
  · simp [header, Text.concat, hside, hheading]
  · exact hbody (by decide) (List.mem_append_left _ hchanged) line hline
  · exact hbody (by decide) (List.mem_append_right _ hchanged) line hline

/-- No line of a hunk's body is taken for a header, whatever text it shows. -/
theorem head_ne_of_mem_body {mark : Char} (hmark : mark ≠ '@') {changed : DiffLine} {line : Text}
    (hline : line ∈ bodyLine mark changed) (lineEnd : Text) :
    ∀ c, (line ++ lineEnd).head? = some c → c ≠ '@' := by
  intro c hc
  rcases List.mem_cons.mp hline with rfl | hline
  · rw [List.cons_append, List.head?_cons, Option.some.injEq] at hc
    exact hc ▸ hmark
  · split at hline
    · cases hline
    · rw [List.mem_singleton.mp hline, List.head?_append] at hc
      have hc : '\\' = c := by simpa using hc
      exact hc ▸ by decide

/-- What the header and the body of a hunk announce together. -/
theorem filterMap_linesWith {hunk : Hunk}
    (hbound : (NewSide.ofHunk hunk).start + (NewSide.ofHunk hunk).count < numberBound)
    (heading lineEnd : Text) :
    (hunk.linesWith heading).filterMap
        (fun line => (NewSide.ofLine? (line ++ lineEnd)).bind NewSide.range?) =
      hunk.addedRange?.toList := by
  have hbody {mark : Char} (hmark : mark ≠ '@') (changed : List DiffLine) :
      (changed.flatMap (bodyLine mark)).filterMap
        (fun line => (NewSide.ofLine? (line ++ lineEnd)).bind NewSide.range?) = [] := by
    refine List.filterMap_eq_nil_iff.mpr fun line hline => ?_
    obtain ⟨_, _, hline⟩ := List.mem_flatMap.mp hline
    rw [NewSide.ofLine?_eq_none (head_ne_of_mem_body hmark hline lineEnd)]
    rfl
  rw [linesWith, List.filterMap_append, hbody (by decide), List.append_nil, List.filterMap_cons,
    hbody (by decide), List.append_assoc, NewSide.ofLine?_header (by omega) (by omega),
    Option.bind_some, range?_ofHunk hbound]
  cases hunk.addedRange? <;> rfl

end Hunk

namespace Edit

/-! ## The text of a diff -/

/-- The end of a line. -/
def lineEnd (hasReturn : Bool) : Text := if hasReturn then ['\r', '\n'] else ['\n']

/-- A script as a unified diff without context: lines that name the file, then the hunks, each with
a text behind its header. -/
def diff (hasReturn : Bool) (preamble : List Text) (heading : Hunk → Text) (edits : List Edit) :
    Text :=
  (preamble ++ (hunks edits).flatMap fun hunk => hunk.linesWith (heading hunk)).flatMap
    (· ++ lineEnd hasReturn)

/-- Without texts behind the headers and carriage returns, this is the diff that is compared. -/
theorem unified_eq_diff (preamble : List Text) (edits : List Edit) :
    unified preamble edits = diff false preamble (fun _ => []) edits := by
  simp [unified, Text.unlines, Text.concat, diff, lineEnd, Hunk.linesWith, Hunk.lines,
    List.flatMap, Function.comp_def]

end Edit

theorem Text.splitOnChar_flatMap_lineEnd (hasReturn : Bool) {lines : List Text}
    (h : ∀ line ∈ lines, '\n' ∉ line) :
    Text.splitOnChar '\n' (lines.flatMap (· ++ Edit.lineEnd hasReturn)) =
      lines.map (· ++ if hasReturn then ['\r'] else []) ++ [[]] := by
  induction lines with
  | nil => rfl
  | cons line lines ih =>
    obtain ⟨hline, hlines⟩ := List.forall_mem_cons.mp h
    have hend : line ++ Edit.lineEnd hasReturn =
        (line ++ if hasReturn then ['\r'] else []) ++ ['\n'] := by
      cases hasReturn <;> simp [Edit.lineEnd]
    have hfree : '\n' ∉ line ++ if hasReturn then ['\r'] else [] := by
      cases hasReturn <;> simp [hline]
    rw [List.flatMap_cons, hend, List.append_assoc, List.singleton_append,
      Text.splitOnChar_append_separator, Text.splitOnChar_of_notMem hfree, ih hlines, List.map_cons]
    rfl

namespace ChangedLines

variable {preamble : List Text} {heading : Hunk → Text} {edits : List Edit}

/-- The ranges read from a diff are those that its hunks add, in order. -/
theorem ofDiff_diff_ranges (hasReturn : Bool)
    (hpreamble : ∀ line ∈ preamble, '\n' ∉ line ∧ ¬ ['@'] <+: line)
    (hheading : ∀ hunk ∈ Edit.hunks edits, '\n' ∉ heading hunk)
    (hlines : ∀ edit ∈ edits, '\n' ∉ edit.line.text)
    (hbound : ∀ hunk ∈ Edit.hunks edits,
      (NewSide.ofHunk hunk).start + (NewSide.ofHunk hunk).count < numberBound) :
    (ofDiff (Edit.diff hasReturn preamble heading edits)).ranges =
      (Edit.hunks edits).filterMap Hunk.addedRange? := by
  have hfree : ∀ line ∈ preamble ++
      (Edit.hunks edits).flatMap fun hunk => hunk.linesWith (heading hunk), '\n' ∉ line := by
    intro line hline
    rw [List.mem_append, List.mem_flatMap] at hline
    rcases hline with hline | ⟨hunk, hhunk, hline⟩
    · exact (hpreamble line hline).1
    · refine Hunk.newline_notMem_linesWith (hheading hunk hhunk) ?_ line hline
      exact Edit.forall_mem_hunksAfter (by simp) hlines hunk hhunk
  rw [ofDiff, Edit.diff, Text.splitOnChar_flatMap_lineEnd hasReturn hfree, List.filterMap_append,
    List.filterMap_map, List.filterMap_append]
  -- Neither the lines that name the file nor the empty rest behind the last line is a header.
  have hempty : [[]].filterMap (fun line => (NewSide.ofLine? line).bind NewSide.range?) = [] := rfl
  have hnames : preamble.filterMap ((fun line => (NewSide.ofLine? line).bind NewSide.range?) ∘
      (· ++ if hasReturn then ['\r'] else [])) = [] := by
    refine List.filterMap_eq_nil_iff.mpr fun line hline => ?_
    have hhead : ∀ c, (line ++ if hasReturn then ['\r'] else []).head? = some c → c ≠ '@' := by
      rintro c hc rfl
      cases line with
      | nil => cases hasReturn <;> simp at hc
      | cons d line =>
        obtain rfl : d = '@' := by simpa using hc
        exact (hpreamble _ hline).2 ⟨line, rfl⟩
    rw [Function.comp_apply, NewSide.ofLine?_eq_none hhead]
    rfl
  rw [hempty, hnames, List.nil_append, List.append_nil, List.filterMap_flatMap,
    List.filterMap_eq_flatMap_toList]
  refine List.flatMap_congr fun hunk hhunk => ?_
  exact Hunk.filterMap_linesWith (hbound hunk hhunk) _ _

/-- A diff without context is read as the set of the lines that its script inserts, in the order of
the hunks, whatever stands behind the headers and in the changed lines. -/
theorem ofDiff_diff (hasReturn : Bool) (preamble : List Text) (heading : Hunk → Text)
    (edits : List Edit) (hpreamble : ∀ line ∈ preamble, '\n' ∉ line ∧ ¬ ['@'] <+: line)
    (hheading : ∀ hunk ∈ Edit.hunks edits, '\n' ∉ heading hunk)
    (hlines : ∀ edit ∈ edits, '\n' ∉ edit.line.text)
    (hbound : ∀ hunk ∈ Edit.hunks edits,
      (NewSide.ofHunk hunk).start + (NewSide.ofHunk hunk).count < numberBound) :
    (∀ number, (ofDiff (Edit.diff hasReturn preamble heading edits)).contains number = true ↔
      Edit.Inserts edits number) ∧
    (ofDiff (Edit.diff hasReturn preamble heading edits)).ranges =
      (Edit.hunks edits).filterMap Hunk.addedRange? ∧
    (∀ range ∈ (ofDiff (Edit.diff hasReturn preamble heading edits)).ranges,
      1 ≤ range.first ∧ range.first ≤ range.last) ∧
    (ofDiff (Edit.diff hasReturn preamble heading edits)).ranges.Pairwise
      (fun a b => a.last + 1 < b.first) := by
  have hranges := ofDiff_diff_ranges hasReturn hpreamble hheading hlines hbound
  refine ⟨fun number => ?_, hranges, ?_, ?_⟩
  · rw [← Edit.exists_mem_hunks_adds, contains, hranges, List.any_eq_true]
    simp only [Hunk.adds_iff, List.mem_filterMap]
    constructor
    · rintro ⟨range, ⟨hunk, hhunk, hrange⟩, hnumber⟩
      exact ⟨hunk, hhunk, range, hrange, hnumber⟩
    · rintro ⟨hunk, hhunk, range, hrange, hnumber⟩
      exact ⟨range, ⟨hunk, hhunk, hrange⟩, hnumber⟩
  · rw [hranges]
    intro range hrange
    obtain ⟨hunk, _, hrange⟩ := List.mem_filterMap.mp hrange
    obtain ⟨hne, rfl⟩ := Hunk.addedRange?_eq_some_iff.mp hrange
    have := List.length_pos_iff.mpr hne
    exact ⟨Nat.le_add_left _ _, by dsimp only; omega⟩
  · rw [hranges, List.pairwise_filterMap]
    refine (Edit.pairwise_hunks edits).imp fun {a b} hab ra hra rb hrb => ?_
    obtain ⟨_, rfl⟩ := Hunk.addedRange?_eq_some_iff.mp hra
    obtain ⟨_, rfl⟩ := Hunk.addedRange?_eq_some_iff.mp hrb
    dsimp only
    omega

/-- Changed lines that look like headers, a hunk that only deletes, a last line without an end. -/
theorem ofDiff_diff_headerLines :
    (ofDiff (Edit.diff true
      ["diff --git a/f.ts b/f.ts", "index 1..2 100644", "--- a/f.ts", "+++ b/f.ts"]
      (fun _ => " @@ -7 +7 @@")
      [.insert ⟨"@@ -1 +1 @@", true⟩, .keep ⟨"kept", true⟩, .delete ⟨"++ b/f.ts", true⟩,
        .keep ⟨"kept", true⟩, .delete ⟨"--", true⟩, .insert ⟨"++", true⟩,
        .insert ⟨"@@ -1 +1 @@", false⟩])).ranges = [⟨1, 1⟩, ⟨4, 5⟩] :=
  (ofDiff_diff true _ _ _ (by decide) (by decide) (by decide) (by decide)).2.1.trans (by decide)

end ChangedLines

end ChangeReview
