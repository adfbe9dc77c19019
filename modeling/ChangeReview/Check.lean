import ChangeReview.Change.Hunk
import ChangeReview.Failure
import ChangeReview.Scan
import ChangeReview.Style.Scan

/-!
# Checking files

Each file is classified, read and searched for findings on the lines that count as changed. A file
that is left out, cannot be read or has no such lines yields nothing and disturbs no other file.

## Main definitions

- `Target`: a file to check, as it is shown and as it is read.
- `Check`: the configuration, filter and reader of a check.
- `Check.violations`: the findings of all files, in their order.
- `ChangeSource`: what is known about a change, with `ChangeSource.targets` and
  `ChangeSource.addedLines`.
-/

namespace ChangeReview

/-- A file to check. -/
structure Target where
  /-- The path that findings show. -/
  display : Path
  /-- The path that the content is read from. -/
  source : Path
  deriving DecidableEq, Repr

/-- What a check works with. -/
structure Check where
  config : Config
  filter : FileFilter
  /-- The text of a file. -/
  read : Path → Except FileFault Text

namespace Check

/-- The check of a configuration, unless one of its patterns is no glob. -/
def ofConfig (config : Config) (read : Path → Except FileFault Text) : Except Failure Check := do
  let filter ← (FileFilter.ofConfig config).mapError .invalidPattern
  .ok { config, filter, read }

/-- The findings of a file of one kind. -/
def fileViolations (config : Config) (kind : FileKind) (path : Path) (content : Text)
    (changed : ChangedLines) : List Violation :=
  match kind with
  | .source => Scan.violations config path content changed
  | .stylesheet => Style.violations Style.builtin path content changed

/-- The lines that count as changed in a file with a content, or nothing if it is skipped. -/
abbrev Selection := Target → Text → Option ChangedLines

/-- The findings of one file. -/
def targetViolations (check : Check) (select : Selection) (target : Target) : List Violation :=
  match check.filter.classify target.display, check.read target.source with
  | some kind, .ok content =>
    match select target content with
    | some changed => fileViolations check.config kind target.display content changed
    | none => []
  | _, _ => []

/-- The findings of all files, in their order. -/
def violations (check : Check) (select : Selection) (targets : List Target) : List Violation :=
  targets.flatMap (check.targetViolations select)

/-- Every line of a file counts as changed. -/
def wholeFile : Selection := fun _ content => some (.wholeFile (Text.lineCount content))

end Check

/-- What is known about a change since a reference. -/
structure ChangeSource where
  /-- The files that changed, seen from the root of the repository. -/
  changedFiles : Text → Except Failure (List Path)
  /-- The unified diff of one file, without context. -/
  diff : Path → Text → Except Failure Text

namespace ChangeSource

/-- The changed files below one of the roots, in the order of the source. Roots that have no
canonical form do not count, and without roots all files are kept. -/
def targets (source : ChangeSource) (canonical? : Path → Option Path) (directory : Path)
    (base : Text) (roots : List Path) : Except Failure (List Target) := do
  let directory := (canonical? directory).getD directory
  let roots := roots.filterMap canonical?
  let files ← source.changedFiles base
  let targets := files.map fun file => { display := file, source := Path.join directory file }
  .ok (targets.filter fun target => roots.isEmpty || roots.any (Path.isUnder · target.source))

/-- The lines that were added to a file, or nothing if there are none or the diff is not to be
had. -/
def addedLines (source : ChangeSource) (base : Text) : Check.Selection := fun target _ =>
  match source.diff target.display base with
  | .error _ => none
  | .ok diff =>
    let changed := ChangedLines.ofDiff diff
    if changed.isEmpty then none else some changed

/-- The findings on and beside the lines that were added since a reference. -/
def violations (source : ChangeSource) (check : Check) (canonical? : Path → Option Path)
    (directory : Path) (base : Text) (roots : List Path) : Except Failure (List Violation) := do
  let targets ← source.targets canonical? directory base roots
  .ok (check.violations (source.addedLines base) targets)

end ChangeSource

end ChangeReview
