import ChangeReview.Check
import ChangeReview.CommandLine
import ChangeReview.Config.Template
import ChangeReview.FileSystem
import ChangeReview.Report.Notice
import ChangeReview.Review.Address

/-!
# Running a command

A command reads files and perhaps a repository, and answers with an exit code, texts for its two
outputs, and at most one file to write.

## Main definitions

- `Workspace`: the place where a command runs.
- `CommandLine.config`: the configuration in effect.
- `Workspace.run`: the outcome of a command.
-/

namespace ChangeReview

/-- A repository with files to check out. -/
structure Worktree where
  /-- The directory of the files. -/
  directory : Path
  changes : ChangeSource

/-- The place where a command runs. -/
structure Workspace where
  files : FileSystem
  /-- The repository around the current directory. -/
  worktree : Except Failure Worktree
  /-- What answers the calls that post to a pull request. -/
  poster : Review.Address → Review.Poster

/-- What a command leaves behind. -/
structure Outcome where
  exitCode : Nat
  /-- What is printed. -/
  output : Text := []
  /-- What is said beside it. -/
  messages : Text := []
  /-- The file that is written, with its text. -/
  written : Option (Path × Text) := none
  deriving DecidableEq, Repr

namespace Outcome

/-- The exit code of a command without findings that count. -/
def success : Nat := 0

/-- The exit code of a check with findings that count. -/
def violationsFound : Nat := 1

/-- The exit code of a command that failed. -/
def failed : Nat := 2

/-- The exit code of a check with the given findings. -/
def codeOf (violations : List Violation) (warnOnly strict : Bool) : Nat :=
  if warnOnly then success
  else if violations.any (·.isError) || (strict && !violations.isEmpty) then violationsFound
  else success

/-- The outcome of a command that failed. -/
def ofFailure (color : Bool) (failure : Failure) : Outcome :=
  { exitCode := failed, messages := Report.failure color failure }

end Outcome

/-- The configuration of a project: a named file, or else what is found, or no file at all. -/
def Config.ofProject (access : FileAccess) (ignored : Bool) (path : Option Path) :
    Except Failure Config :=
  if ignored then .ok {}
  else
    match path with
    | some path => Config.loadFile access path
    | none => Config.load access

/-- The configuration with another bound on inline comments, if one is given. -/
def Config.boundComments (config : Config) : Option Nat → Config
  | none => config
  | some bound => { config with review := { config.review with maxComments := bound } }

/-- The configuration in effect. -/
def CommandLine.config (line : CommandLine) (access : FileAccess) : Except Failure Config :=
  match line.command with
  | .check arguments => Config.ofProject access line.noConfig arguments.config
  | .review arguments =>
    (Config.ofProject access line.noConfig arguments.config).map
      (·.boundComments arguments.maxComments)
  | .init _ => .ok {}

namespace Workspace

/-- The path of a file without a leading dot. -/
def displayed (path : Path) : Path := (Path.strip? ['.'] path).getD path

/-- The files to check whole: those below directories, and files that are named. -/
def wholeTargets (files : FileSystem) (filter : FileFilter) (paths : List Path) : List Target :=
  (paths.flatMap fun path =>
      (if files.isDirectory path then files.walk path else [path]).filter
        fun path => (filter.classify path).isSome).map
    fun path => { display := displayed path, source := path }

/-- The findings since a reference, or in whole files. -/
def findings (workspace : Workspace) (check : Check) (base : Option Text) (paths : List Path) :
    Except Failure (List Violation) :=
  match base with
  | none =>
    .ok (check.violations Check.wholeFile (wholeTargets workspace.files check.filter paths))
  | some base => do
    let worktree ← workspace.worktree
    worktree.changes.violations check workspace.files.canonical? worktree.directory base paths

/-- The outcome of a report that is printed, or written to a file. -/
def deliver (workspace : Workspace) (quiet : Bool) (exitCode : Nat) (report : Text) :
    Option Path → Except Failure Outcome
  | none => .ok { exitCode, output := report }
  | some path => do
    let _ ← (workspace.files.write path report).mapError .system
    let notice := Text.concat ["Output written to: ", path, "\n"]
    .ok
      { exitCode
        messages := if quiet then [] else notice
        written := some (path, report) }

/-- The outcome of a check. -/
def check (workspace : Workspace) (line : CommandLine) (config : Config)
    (arguments : CheckArguments) : Except Failure Outcome := do
  let check ← Check.ofConfig config workspace.files.read
  let violations ← workspace.findings check arguments.base arguments.paths
  let report := Report.render arguments.format (line.color.enabled false) violations
  let exitCode := Outcome.codeOf violations arguments.warnOnly arguments.strict
  workspace.deliver line.quiet exitCode report arguments.output

/-- The pull request that the arguments name. -/
def addressOf (arguments : ReviewArguments) : Except Failure Review.Address :=
  match arguments.repo, arguments.pr, arguments.token with
  | none, _, _ => .error (.review "No repository given (--repo or GITHUB_REPOSITORY)")
  | _, none, _ => .error (.review "No pull request number given (--pr)")
  | _, _, none => .error (.review "No API token given (--token or GITHUB_TOKEN)")
  | some repo, some pr, some token => .ok { apiUrl := arguments.apiUrl, repo, pr, token }

/-- The outcome of a review. Findings do not fail it. -/
def review (workspace : Workspace) (line : CommandLine) (config : Config)
    (arguments : ReviewArguments) : Except Failure Outcome := do
  let check ← Check.ofConfig config workspace.files.read
  let violations ← workspace.findings check (some arguments.base) []
  if arguments.dryRun then
    .ok
      { exitCode := Outcome.success
        output := Report.render arguments.format (line.color.enabled false) violations }
  else
    let address ← addressOf arguments
    let (_, ending) :=
      Review.publish (workspace.poster address) violations config.review.maxComments
    let published ← ending
    .ok
      { exitCode := Outcome.success
        output := if line.quiet then [] else published.describe ++ ['\n'] }

/-- The outcome of an initialisation. -/
def createConfig (workspace : Workspace) (arguments : InitArguments) : Except Failure Outcome :=
  if workspace.files.present arguments.output && !arguments.force then
    .error (.config (Text.concat
      ["Configuration file already exists: ", arguments.output, ". Use --force to overwrite."]))
  else do
    let _ ← (workspace.files.write arguments.output Config.template).mapError .system
    .ok
      { exitCode := Outcome.success
        output := Text.concat ["Created configuration file: ", arguments.output, "\n"]
        written := some (arguments.output, Config.template) }

/-- The outcome of a command, or why it failed. -/
def attempt (workspace : Workspace) (line : CommandLine) : Except Failure Outcome := do
  let config ← line.config workspace.files.access
  match line.command with
  | .check arguments => workspace.check line config arguments
  | .review arguments => workspace.review line config arguments
  | .init arguments => workspace.createConfig arguments

/-- The outcome of a command. -/
def run (workspace : Workspace) (line : CommandLine) : Outcome :=
  match workspace.attempt line with
  | .ok outcome => outcome
  | .error failure => .ofFailure (line.color.enabled false) failure

/-- The files after a command. -/
def filesAfter (workspace : Workspace) (outcome : Outcome) : FileSystem :=
  match outcome.written with
  | none => workspace.files
  | some (path, text) => ((workspace.files.write path text).toOption).getD workspace.files

end Workspace

end ChangeReview
