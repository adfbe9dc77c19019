import ChangeReview.CommandLine.Parser
import ChangeReview.Proofs.Failure.Sequence
import ChangeReview.Workspace

/-!
# The configuration in effect

A configuration file is refused if it makes no sense, and the defaults make sense. The bound on
inline comments that a command line gives is put into the configuration after this check:
`CommandLine.validate_config` says that the configuration in effect is valid but for a bound of zero.
-/

namespace ChangeReview

namespace Config

/-- What a configuration must be like beyond its form. -/
structure IsSensible (config : Config) : Prop where
  extensions_ne_nil : config.scanner.extensions ≠ []
  extensions : ∀ extension ∈ config.scanner.extensions ++ config.scanner.styleExtensions,
    extension ≠ [] ∧ ¬ ['.'] <+: extension
  exclude : ∀ pattern ∈ config.scanner.exclude, ∃ tokens, FileFilter.compile pattern = .ok tokens
  maxComments_pos : 1 ≤ config.review.maxComments

/-- The complaint about a bound of zero. -/
def noComments : Failure := .config "review.max_comments must be greater than 0"

/-! ## What the check accepts -/

theorem headIs_eq_true_iff {c : Char} {text : Text} : headIs c text = true ↔ [c] <+: text := by
  cases text with
  | nil => simp [headIs]
  | cons d rest =>
    rw [List.cons_prefix_cons]
    simp [headIs, eq_comm (a := c)]

theorem checkExtension_eq_ok_iff {field extension : Text} :
    checkExtension field extension = .ok () ↔ extension ≠ [] ∧ ¬ ['.'] <+: extension := by
  rw [← headIs_eq_true_iff, checkExtension]
  split
  · next hdot => simp [hdot]
  · next hdot =>
    split
    · next hempty => simp_all
    · next hempty => simp_all

theorem checkScanner_eq_ok_iff {scanner : Scanner} :
    checkScanner scanner = .ok () ↔ scanner.extensions ≠ [] ∧
      ∀ extension ∈ scanner.extensions ++ scanner.styleExtensions,
        extension ≠ [] ∧ ¬ ['.'] <+: extension := by
  unfold checkScanner
  dsimp only
  split
  · next hempty =>
    rw [List.isEmpty_iff.mp hempty]
    constructor
    · rintro ⟨⟩
    · rintro ⟨hne, _⟩
      exact absurd rfl hne
  · next hsome =>
    have hne : scanner.extensions ≠ [] := by simpa using hsome
    rw [step_eq_ok_iff, forM_eq_ok_iff, forM_eq_ok_iff, List.forall_mem_append]
    simp only [checkExtension_eq_ok_iff]
    exact ⟨fun h => ⟨hne, h⟩, fun h => h.2⟩

theorem checkPattern_eq_ok_iff {pattern : Text} :
    checkPattern pattern = .ok () ↔ ∃ tokens, FileFilter.compile pattern = .ok tokens := by
  rw [checkPattern]
  cases FileFilter.compile pattern with
  | error fault => simp
  | ok tokens => simp

theorem checkReview_eq {review : Review} :
    checkReview review = if review.maxComments = 0 then .error noComments else .ok () := rfl

/-- A configuration is accepted exactly if it makes sense. -/
theorem validate_eq_ok_iff {config : Config} : config.validate = .ok () ↔ config.IsSensible := by
  have hreview : checkReview config.review = .ok () ↔ 1 ≤ config.review.maxComments := by
    rw [checkReview_eq, Nat.one_le_iff_ne_zero]
    split <;> simp_all
  rw [validate, step_eq_ok_iff, step_eq_ok_iff, forM_eq_ok_iff, checkScanner_eq_ok_iff, hreview]
  simp only [checkPattern_eq_ok_iff]
  constructor
  · rintro ⟨⟨hne, hextensions⟩, hexclude, hpos⟩
    exact ⟨hne, hextensions, hexclude, hpos⟩
  · rintro ⟨hne, hextensions, hexclude, hpos⟩
    exact ⟨⟨hne, hextensions⟩, hexclude, hpos⟩

theorem validate_default : ({} : Config).validate = .ok () := by rfl

/-! ## Where a configuration comes from -/

variable {access : FileAccess} {config : Config}

theorem validate_ofText {content : Text} (h : ofText content = .ok config) :
    config.validate = .ok () := by
  obtain ⟨decoded, _, h⟩ := bind_eq_ok_iff.mp h
  obtain ⟨hvalid, h⟩ := step_eq_ok_iff.mp h
  obtain rfl := Except.ok.inj h
  exact hvalid

theorem validate_loadFile {path : Path} (h : loadFile access path = .ok config) :
    config.validate = .ok () := by
  obtain ⟨content, _, h⟩ := bind_eq_ok_iff.mp h
  exact validate_ofText h

theorem validate_load (h : load access = .ok config) : config.validate = .ok () := by
  rw [load] at h
  split at h
  · obtain rfl := Except.ok.inj h
    exact validate_default
  · dsimp only at h
    split at h
    · exact validate_loadFile h
    · obtain rfl := Except.ok.inj h
      exact validate_default

theorem ofText_nil : ofText [] = .ok {} := by
  have hdecode : decode [] = .ok {} := by
    have hdocument : Toml.document? [] = some [] := by rfl
    simp only [decode, hdocument, decodeSection, List.mergeSort_nil]
    rfl
  simp only [ofText, hdecode]
  rfl

/-- Whichever way the configuration of a project is found, it is valid. -/
theorem validate_ofProject {ignored : Bool} {path : Option Path}
    (h : ofProject access ignored path = .ok config) : config.validate = .ok () := by
  cases ignored with
  | true =>
    obtain rfl := Except.ok.inj h
    exact validate_default
  | false =>
    cases path with
    | some path => exact validate_loadFile h
    | none => exact validate_load h

/-- Only the section about reviews is looked at again when it is put into a valid configuration. -/
theorem validate_withReview (h : config.validate = .ok ()) (review : Review) :
    { config with review }.validate = checkReview review := by
  obtain ⟨hscanner, h⟩ := step_eq_ok_iff.mp h
  obtain ⟨hexclude, _⟩ := step_eq_ok_iff.mp h
  rw [validate, hscanner]
  change config.scanner.exclude.forM checkPattern >>= _ = _
  rw [hexclude]
  rfl

theorem validate_boundComments (h : config.validate = .ok ()) (bound : Option Nat) :
    (config.boundComments bound).validate =
      if bound = some 0 then .error noComments else .ok () := by
  cases bound with
  | none => simpa [boundComments] using h
  | some bound =>
    rw [boundComments, validate_withReview h, checkReview_eq]
    simp

/-- The files of a check can be chosen as soon as all patterns are globs. -/
theorem exists_check (h : ∀ pattern ∈ config.scanner.exclude,
      ∃ tokens, FileFilter.compile pattern = .ok tokens)
    (read : Path → Except FileFault Text) :
    ∃ check, Check.ofConfig config read = .ok check ∧ check.config = config := by
  obtain ⟨exclude, hexclude⟩ := exists_mapM_eq_ok h
  simp only [Check.ofConfig, FileFilter.ofConfig, hexclude]
  exact ⟨_, rfl, rfl⟩

end Config

namespace CommandLine

/-- The command line asks for a review with no inline comment at all. -/
def forbidsComments (line : CommandLine) : Bool :=
  match line.command with
  | .review arguments => arguments.maxComments == some 0
  | _ => false

/-- The configuration in effect is the valid one of the project, with the bound on comments that the
command line gives. -/
theorem exists_ofProject {line : CommandLine} {access : FileAccess} {config : Config}
    (h : line.config access = .ok config) :
    ∃ (project : Config) (bound : Option Nat), project.validate = .ok () ∧
      config = project.boundComments bound ∧ (bound = some 0 ↔ line.forbidsComments = true) := by
  rw [CommandLine.config] at h
  rw [forbidsComments]
  cases hcommand : line.command with
  | check arguments =>
    rw [hcommand] at h
    exact ⟨config, none, Config.validate_ofProject h, rfl, by simp⟩
  | review arguments =>
    rw [hcommand] at h
    obtain ⟨project, hproject, rfl⟩ := map_eq_ok_iff.mp h
    exact ⟨project, arguments.maxComments, Config.validate_ofProject hproject, rfl, by simp⟩
  | init arguments =>
    rw [hcommand] at h
    obtain rfl := Except.ok.inj h
    exact ⟨({} : Config), none, Config.validate_default, rfl, by simp⟩

/-- A command that gets past loading has a configuration from which its files can be chosen, and the
configuration is valid unless the command line asks for no inline comments: nothing else can be wrong
with it. -/
theorem validate_config {line : CommandLine} {access : FileAccess} {config : Config}
    (h : line.config access = .ok config) (read : Path → Except FileFault Text) :
    (∃ check, Check.ofConfig config read = .ok check ∧ check.config = config) ∧
      config.validate = if line.forbidsComments then .error Config.noComments else .ok () := by
  obtain ⟨project, bound, hproject, rfl, hbound⟩ := exists_ofProject h
  constructor
  · have hexclude := (Config.validate_eq_ok_iff.mp hproject).exclude
    refine Config.exists_check ?_ read
    cases bound <;> exact hexclude
  · rw [Config.validate_boundComments hproject]
    simp only [hbound]

/-- A file system with one empty file, away from where a configuration is looked for. -/
def oneFile : FileAccess where
  read path := if path = "ci.toml".toList then .ok [] else .error ⟨.notFound, "file not found"⟩
  present path := path = "ci.toml".toList
  currentDirectory := some "/project"

/-- The words of a review with a configuration file and a bound on inline comments. -/
def reviewWords (bound : String) : List Text :=
  ["review", "--base", "main", "--config", "ci.toml", "--max-comments", bound].map String.toList

/-- What these words mean. -/
def boundedReview (bound : Nat) : CommandLine where
  verbose := 0
  quiet := false
  color := .auto
  noConfig := false
  command := .review
    { base := "main"
      repo := none
      pr := none
      token := none
      apiUrl := defaultApiUrl
      maxComments := some bound
      dryRun := false
      config := some "ci.toml"
      format := .markdown }

theorem config_boundedReview (bound : Nat) :
    (boundedReview bound).config oneFile = .ok (({} : Config).boundComments (some bound)) := by
  have hfile : Config.ofProject oneFile false (some "ci.toml") = .ok {} := Config.ofText_nil
  simp only [CommandLine.config, boundedReview, hfile]
  rfl

theorem validate_config_threeComments :
    parse (reviewWords "3") = .ok (boundedReview 3) ∧
      (boundedReview 3).config oneFile = .ok (({} : Config).boundComments (some 3)) ∧
      (({} : Config).boundComments (some 3)).validate = .ok () :=
  ⟨rfl, config_boundedReview 3,
    (validate_config (config_boundedReview 3) oneFile.read).2⟩

/-- A bound of zero is refused in a file and accepted on the command line: the configuration in
effect is then one that no file can have. -/
theorem validate_config_noComments :
    parse (reviewWords "0") = .ok (boundedReview 0) ∧
      (boundedReview 0).config oneFile = .ok (({} : Config).boundComments (some 0)) ∧
      (({} : Config).boundComments (some 0)).validate = .error Config.noComments :=
  ⟨rfl, config_boundedReview 0, rfl⟩

end CommandLine

end ChangeReview
