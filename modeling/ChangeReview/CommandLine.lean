import ChangeReview.Report.Sarif
import ChangeReview.Config.Load

/-!
# Command lines

What a command line asks for, and why it can be refused.

## Main definitions

- `CommandLine`: the general options and the command with its arguments.
- `UsageFault`: why a command line is refused, or answered with help.
- `CommandLine.logLevel`: how much is logged.
-/

namespace ChangeReview

/-- The arguments of a check. -/
structure CheckArguments where
  /-- The files and directories to check. -/
  paths : List Path
  /-- The configuration file. -/
  config : Option Path
  /-- The reference since which lines count as changed. -/
  base : Option Text
  /-- The form of the report. -/
  format : Report.Format
  /-- The file to which the report is written. -/
  output : Option Path
  /-- Whether findings never fail the check. -/
  warnOnly : Bool
  /-- Whether all findings fail the check. -/
  strict : Bool
  deriving DecidableEq, Repr

/-- The arguments of a review. -/
structure ReviewArguments where
  /-- The reference since which lines count as changed. -/
  base : Text
  /-- The owner and name of the hosted repository. -/
  repo : Option Text
  /-- The number of the pull request. -/
  pr : Option Nat
  /-- The token for posting. -/
  token : Option Text
  /-- The address of the hosting service. -/
  apiUrl : Text
  /-- The bound on inline comments, if it is not the configured one. -/
  maxComments : Option Nat
  /-- Whether the findings are only printed. -/
  dryRun : Bool
  /-- The configuration file. -/
  config : Option Path
  /-- The form in which the findings are printed. -/
  format : Report.Format
  deriving DecidableEq, Repr

/-- The arguments of an initialisation. -/
structure InitArguments where
  /-- The configuration file to write. -/
  output : Path
  /-- Whether a file that exists is replaced. -/
  force : Bool
  deriving DecidableEq, Repr

/-- What is to be done. -/
inductive Command where
  | check (arguments : CheckArguments)
  | review (arguments : ReviewArguments)
  | init (arguments : InitArguments)
  deriving DecidableEq, Repr

/-- The general options and the command. -/
structure CommandLine where
  /-- How often more words were asked for. -/
  verbose : Nat
  /-- Whether only errors are logged. -/
  quiet : Bool
  /-- When reports are coloured. -/
  color : ColorMode
  /-- Whether no configuration file is read. -/
  noConfig : Bool
  command : Command
  deriving DecidableEq, Repr

/-- Why a command line is refused, or answered with help. -/
inductive UsageFault where
  /-- An option is given twice, or excludes another one. -/
  | argumentConflict
  | missingRequiredArgument
  | missingSubcommand
  | invalidSubcommand
  | unknownArgument
  /-- A value is missing or not one of the possible ones. -/
  | invalidValue
  /-- A value cannot be read. -/
  | valueValidation
  /-- A switch is given a value. -/
  | tooManyValues
  | displayHelp
  | displayVersion
  /-- Nothing is asked for, which is answered with help. -/
  | displayHelpOnMissing
  deriving DecidableEq, Repr

/-- The exit code after a refusal or help. -/
def UsageFault.exitCode : UsageFault → Nat
  | displayHelp => 0
  | displayVersion => 0
  | _ => 2

/-- How much is logged, given how often more words were asked for and whether silence was. -/
def logLevel (verbose : Nat) (quiet : Bool) : Text :=
  if quiet then "error"
  else
    match verbose with
    | 0 => "warn"
    | 1 => "info"
    | 2 => "debug"
    | _ => "trace"

/-- The names of the forms of a report. -/
def Report.formatNames : List (Text × Report.Format) :=
  [("text", .text), ("json", .json), ("sarif", .sarif), ("markdown", .markdown), ("md", .markdown)]

/-- The names of the colour modes. -/
def ColorMode.names : List (Text × ColorMode) :=
  [("auto", .auto), ("always", .always), ("never", .never)]

end ChangeReview
