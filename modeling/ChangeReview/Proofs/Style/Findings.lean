import ChangeReview.Style.Scan

/-!
# The findings of a stylesheet, line by line

A stylesheet is read from its first line on, with no more memory than whether a comment is open.
Every finding comes from one changed line: `Style.mem_violationsFrom_iff` names it and what is
remembered of the lines before it, and what holds of the findings follows from there.
-/

namespace ChangeReview

/-- Whether the scan of stylesheets makes the finding. -/
def Rule.byStyle : Rule → Bool
  | styleUtility => true
  | styleLiteral => true
  | _ => false

namespace Style

variable {table : List Property} {path : Path} {changed : ChangedLines} {v : Violation}

theorem lineViolation?_spec {lineNumber : Nat} {line : Text}
    (hv : lineViolation? table path lineNumber line = some v) :
    v.path = path ∧ v.line = lineNumber ∧ v.rule.byStyle = true ∧ v.onChangedLine = true := by
  simp only [lineViolation?, Option.bind_eq_bind, Option.bind_eq_some_iff] at hv
  obtain ⟨⟨name, value⟩, _, hv⟩ := hv
  dsimp only at hv
  split at hv
  · obtain rfl := Option.some.inj hv
    exact ⟨rfl, rfl, rfl, rfl⟩
  · obtain ⟨literal, _, rfl⟩ := Option.map_eq_some_iff.mp hv
    exact ⟨rfl, rfl, rfl, rfl⟩

/-- A finding comes from a changed line that is code, given the lines before it. -/
theorem mem_violationsFrom_iff {isOpen : Bool} {lineNumber : Nat} {lines : List Text} :
    v ∈ violationsFrom table path changed isOpen lineNumber lines ↔
      ∃ index line, lines[index]? = some line ∧ changed.contains (lineNumber + index) = true ∧
        roleOf ((lines.take index).foldl openAfter isOpen) line = .code ∧
        lineViolation? table path (lineNumber + index) line = some v := by
  induction lines generalizing isOpen lineNumber with
  | nil => simp [violationsFrom]
  | cons line lines ih =>
    have hhere : v ∈ (if roleOf isOpen line == .code && changed.contains lineNumber then
          (lineViolation? table path lineNumber line).toList else []) ↔
        changed.contains lineNumber = true ∧ roleOf isOpen line = .code ∧
          lineViolation? table path lineNumber line = some v := by
      by_cases hrole : roleOf isOpen line = .code <;>
        by_cases hchanged : changed.contains lineNumber = true <;> simp [hrole, hchanged]
    have hshift (index : Nat) : lineNumber + 1 + index = lineNumber + (index + 1) := by omega
    rw [violationsFrom, List.mem_append, hhere, ih]
    constructor
    · rintro (hhere | ⟨index, below, hbelow, hfound⟩)
      · exact ⟨0, line, rfl, hhere⟩
      · rw [hshift] at hfound
        exact ⟨index + 1, below, hbelow, hfound⟩
    · rintro ⟨index, below, hbelow, hfound⟩
      cases index with
      | zero =>
        obtain rfl := Option.some.inj hbelow
        exact .inl hfound
      | succ index =>
        refine .inr ⟨index, below, hbelow, ?_⟩
        rw [hshift]
        exact hfound

theorem exists_of_mem_violationsFrom {isOpen : Bool} {lineNumber : Nat} {lines : List Text}
    (hv : v ∈ violationsFrom table path changed isOpen lineNumber lines) :
    ∃ number line, lineNumber ≤ number ∧ changed.contains number = true ∧
      lineViolation? table path number line = some v := by
  obtain ⟨index, line, -, hchanged, -, hfound⟩ := mem_violationsFrom_iff.mp hv
  exact ⟨lineNumber + index, line, Nat.le_add_right _ _, hchanged, hfound⟩

/-- An empty set of changed lines is no special case. -/
theorem violations_eq_violationsFrom (content : Text) :
    violations table path content changed =
      violationsFrom table path changed false 1 (Text.lines content) := by
  unfold violations
  split
  · next hempty =>
    have hranges : changed.ranges = [] := by simpa [ChangedLines.isEmpty] using hempty
    symm
    refine List.eq_nil_iff_forall_not_mem.mpr fun v hv => ?_
    obtain ⟨number, _, _, hchanged, _⟩ := exists_of_mem_violationsFrom hv
    simp [ChangedLines.contains, hranges] at hchanged
  · rfl

theorem violations_spec {content : Text} (hv : v ∈ violations table path content changed) :
    v.path = path ∧ v.rule.byStyle = true ∧ v.onChangedLine = true ∧
      changed.contains v.line = true := by
  rw [violations_eq_violationsFrom] at hv
  obtain ⟨number, line, _, hchanged, hv⟩ := exists_of_mem_violationsFrom hv
  obtain ⟨hpath, hline, hrule, hflag⟩ := lineViolation?_spec hv
  exact ⟨hpath, hrule, hflag, by rw [hline, hchanged]⟩

/-! ## More lines below -/

theorem violationsFrom_append (isOpen : Bool) (lineNumber : Nat) (upper lower : List Text) :
    violationsFrom table path changed isOpen lineNumber (upper ++ lower) =
      violationsFrom table path changed isOpen lineNumber upper ++
        violationsFrom table path changed (upper.foldl openAfter isOpen)
          (lineNumber + upper.length) lower := by
  induction upper generalizing isOpen lineNumber with
  | nil => rfl
  | cons line upper ih =>
    rw [List.cons_append, violationsFrom, ih, violationsFrom, List.foldl_cons, List.length_cons,
      Nat.add_right_comm, Nat.add_assoc lineNumber, ← List.append_assoc]

end Style

end ChangeReview
