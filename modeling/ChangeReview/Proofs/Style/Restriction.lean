import ChangeReview.Proofs.Scan.Findings
import ChangeReview.Proofs.Style.Findings
import ChangeReview.Proofs.Text.Identifier

/-!
# Changed lines of a stylesheet

Which lines are changed decides what is reported and not what is read: a comment is followed over
unchanged lines too. The scan of some changed lines is therefore the scan of the whole stylesheet
without the findings on other lines, as `Style.isRestriction_violations` says together with the
order of the findings.
-/

namespace ChangeReview.Style

/-- The line names the property before its first colon, with nothing but blanks around it. -/
def NamesProperty (line name : Text) : Prop :=
  ∃ lead gap rest, line = lead ++ (name ++ (gap ++ ':' :: rest)) ∧ IsBlankText lead ∧
    IsBlankText gap ∧ name.head?.any Char.isAlpha = true ∧ ∀ c ∈ name, isPropertyPart c = true

/-- The findings on changed lines, given those of the whole stylesheet. -/
structure IsRestriction (table : List Property) (lines : List Text) (changed : ChangedLines)
    (whole findings : List Violation) : Prop where
  kept : findings = whole.filter (changed.contains ·.line)
  bounded : ∀ v ∈ findings, 1 ≤ v.line ∧ v.line ≤ lines.length
  /-- The lines increase, so that no two findings share one. -/
  increasing : findings.Pairwise (·.line < ·.line)
  /-- The value of a property of the table is not called hardcoded. -/
  listed : ∀ v ∈ findings, ∀ line name, lines[v.line - 1]? = some line → NamesProperty line name →
    (∃ property ∈ table, Text.eqIgnoreAsciiCase property.name name = true) →
      v.rule ≠ .styleLiteral

variable {table : List Property} {path : Path} {changed : ChangedLines} {line name : Text}
  {v : Violation}

/-! ## One line -/

theorem isPropertyPart_of_isBlank {c : Char} (h : isBlank c = true) : isPropertyPart c = false := by
  have hnone : ∀ n ∈ blankCodes, isPropertyPart (Char.ofNat n) = false := by decide +kernel
  rw [← Char.ofNat_toNat c]
  exact hnone _ (toNat_mem_blankCodes h)

/-- The property that is read is the one that the line names. -/
theorem declaration?_name (h : NamesProperty line name) {declared : Text × Text}
    (hdeclared : declaration? line = some declared) : declared.1 = name := by
  obtain ⟨lead, gap, rest, rfl, hlead, hgap, hhead, hparts⟩ := h
  have hfirst : ∀ c, (name ++ (gap ++ ':' :: rest)).head? = some c → isBlank c = false := by
    intro c hc
    cases name with
    | nil => cases hhead
    | cons first name =>
      obtain rfl := Option.some.inj hc
      by_contra hblank
      have hpart := isPropertyPart_of_isBlank (Bool.of_not_eq_false hblank)
      rw [hparts first List.mem_cons_self] at hpart
      cases hpart
  -- The name ends where a blank or the colon follows.
  have hstop : ∀ c, (gap ++ ':' :: rest).head? = some c → isPropertyPart c = false := by
    intro c hc
    rcases hgap.eq_or_isBlank_of_head? hc with rfl | hblank
    · decide
    · exact isPropertyPart_of_isBlank hblank
  have hname := Text.takeWhile_append_of_head hparts hstop
  rw [declaration?, Text.trimStart_append hlead hfirst, hname, if_pos hhead] at hdeclared
  split at hdeclared
  · obtain ⟨value, -, rfl⟩ := Option.map_eq_some_iff.mp hdeclared
    rfl
  · cases hdeclared

theorem lookup?_isSome (h : ∃ property ∈ table, Text.eqIgnoreAsciiCase property.name name = true) :
    (lookup? table name).isSome = true := by
  rwa [lookup?, List.find?_isSome]

/-- A line that names a property of the table has no finding about a hardcoded value. -/
theorem rule_ne_styleLiteral {lineNumber : Nat} (hname : NamesProperty line name)
    (hlisted : ∃ property ∈ table, Text.eqIgnoreAsciiCase property.name name = true)
    (hv : lineViolation? table path lineNumber line = some v) : v.rule ≠ .styleLiteral := by
  obtain ⟨declared, hdeclared, hv⟩ := Option.bind_eq_some_iff.mp hv
  obtain ⟨property, hproperty⟩ := Option.isSome_iff_exists.mp (lookup?_isSome hlisted)
  obtain rfl := declaration?_name hname hdeclared
  dsimp only at hv
  rw [hproperty] at hv
  obtain rfl := Option.some.inj hv
  exact Rule.noConfusion

/-! ## All lines -/

variable {isOpen : Bool} {lineNumber : Nat} {lines : List Text}

/-- The scan of changed lines follows the same comments as one that reports on more lines. -/
theorem violationsFrom_eq_filter {wider : ChangedLines}
    (h : ∀ k < lines.length, wider.contains (lineNumber + k) = true) :
    violationsFrom table path changed isOpen lineNumber lines =
      (violationsFrom table path wider isOpen lineNumber lines).filter
        (changed.contains ·.line) := by
  induction lines generalizing isOpen lineNumber with
  | nil => rfl
  | cons line lines ih =>
    have hhere : wider.contains lineNumber = true := h 0 (Nat.zero_lt_succ _)
    have hbelow (k : Nat) (hk : k < lines.length) : wider.contains (lineNumber + 1 + k) = true := by
      have := h (k + 1) (Nat.succ_lt_succ hk)
      rwa [Nat.add_right_comm]
    rw [violationsFrom, violationsFrom, List.filter_append, ← ih hbelow, hhere, Bool.and_true]
    congr 1
    by_cases hcode : (roleOf isOpen line == .code) = true
    · rw [hcode, Bool.true_and, if_pos rfl]
      cases hfound : lineViolation? table path lineNumber line with
      | none => exact ite_self _
      | some v =>
        have hline : v.line = lineNumber := (lineViolation?_spec hfound).2.1
        rw [Option.toList_some, List.filter_singleton, hline, Bool.cond_eq_ite]
    · rw [Bool.not_eq_true] at hcode
      rw [hcode]
      rfl

/-- A finding is about the line that bears its number. -/
theorem exists_line_of_mem_violations {content : Text}
    (hv : v ∈ violations table path content changed) :
    ∃ index line, (Text.lines content)[index]? = some line ∧ v.line = index + 1 ∧
      lineViolation? table path (index + 1) line = some v := by
  rw [violations_eq_violationsFrom] at hv
  obtain ⟨index, line, hline, -, -, hfound⟩ := mem_violationsFrom_iff.mp hv
  rw [Nat.add_comm] at hfound
  exact ⟨index, line, hline, (lineViolation?_spec hfound).2.1, hfound⟩

theorem pairwise_violationsFrom :
    (violationsFrom table path changed isOpen lineNumber lines).Pairwise (·.line < ·.line) := by
  induction lines generalizing isOpen lineNumber with
  | nil => exact List.Pairwise.nil
  | cons line lines ih =>
    rw [violationsFrom, List.pairwise_append]
    refine ⟨?_, ih, fun v hv w hw => ?_⟩
    · split
      · exact Option.pairwise_toList
      · exact List.Pairwise.nil
    · have hhere : v.line = lineNumber := by
        split at hv
        · exact (lineViolation?_spec (Option.mem_toList.mp hv)).2.1
        · cases hv
      obtain ⟨number, below, hle, -, hfound⟩ := exists_of_mem_violationsFrom hw
      have hbelow : w.line = number := (lineViolation?_spec hfound).2.1
      omega

/-- The scan of changed lines finds what the scan of the whole stylesheet finds there, in the order
of the lines. -/
theorem isRestriction_violations (table : List Property) (path : Path) (content : Text)
    (changed : ChangedLines) :
    IsRestriction table (Text.lines content) changed
      (violations table path content (.wholeFile (Text.lineCount content)))
      (violations table path content changed) where
  kept := by
    rw [violations_eq_violationsFrom, violations_eq_violationsFrom]
    refine violationsFrom_eq_filter fun k hk => ?_
    exact ChangedLines.wholeFile_contains (Nat.le_add_right 1 k)
      (by rw [Text.lineCount, Nat.add_comm]; exact hk)
  bounded := by
    intro v hv
    obtain ⟨index, line, hline, hnumber, -⟩ := exists_line_of_mem_violations hv
    have hlt := (List.getElem?_eq_some_iff.mp hline).1
    omega
  increasing := by
    rw [violations_eq_violationsFrom]
    exact pairwise_violationsFrom
  listed := by
    intro v hv line name hline hname hlisted
    obtain ⟨index, found, hfound, hnumber, hv⟩ := exists_line_of_mem_violations hv
    rw [hnumber, Nat.add_sub_cancel, hfound] at hline
    obtain rfl := Option.some.inj hline
    exact rule_ne_styleLiteral hname hlisted hv

end ChangeReview.Style
