import ChangeReview.Config
import ChangeReview.Glob.Parser
import ChangeReview.Path

/-!
# Filtering files

Which files are checked, and by which checks.

## Main definitions

- `FileKind`: sources and stylesheets.
- `FileFilter`: the rules that choose files, with compiled exclusion patterns.
- `FileFilter.classify`: the kind of a file, or nothing if it is left out.
-/

namespace ChangeReview

/-- Which checks a file goes through. -/
inductive FileKind where
  | source
  | stylesheet
  deriving DecidableEq, Repr

/-- The rules that choose the files to check. -/
structure FileFilter where
  extensions : List Text
  styleExtensions : List Text
  exclude : List (List Glob.Token)
  excludeSuffixes : List Text
  deriving Repr

/-- A pattern that is no glob. -/
structure PatternFault where
  /-- The pattern as it was written. -/
  pattern : Text
  /-- What is wrong with it. -/
  fault : Glob.Fault
  deriving DecidableEq, Repr

/-- What is wrong with a pattern, in words. -/
def PatternFault.message (fault : PatternFault) : Text :=
  Text.concat ["error parsing glob '", fault.pattern, "': ", fault.fault.message]

namespace FileFilter

/-- The tokens of a pattern, or what is wrong with it. -/
def compile (pattern : Text) : Except PatternFault (List Glob.Token) :=
  (Glob.parse pattern).mapError fun fault => ⟨pattern, fault⟩

/-- The filter of a configuration, or the first pattern that is no glob. Without the style checks
there are no stylesheets. -/
def ofConfig (config : Config) : Except PatternFault FileFilter := do
  let exclude ← config.scanner.exclude.mapM compile
  return {
    extensions := config.scanner.extensions
    styleExtensions := if config.detectors.styles then config.scanner.styleExtensions else []
    exclude
    excludeSuffixes := config.scanner.excludeSuffixes }

/-- Whether a pattern or a suffix leaves the file out. -/
def isExcluded (filter : FileFilter) (path : Path) : Bool :=
  filter.exclude.any (Glob.isMatch · path) ||
    (Path.fileName? path).any fun name => filter.excludeSuffixes.any (·.isSuffixOf name)

/-- The kind of a file, or nothing if it is left out. -/
def classify (filter : FileFilter) (path : Path) : Option FileKind :=
  if filter.isExcluded path then none
  else
    match Path.extension? path with
    | none => none
    | some extension =>
      if filter.extensions.contains extension then some .source
      else if filter.styleExtensions.contains extension then some .stylesheet
      else none

end FileFilter

end ChangeReview
