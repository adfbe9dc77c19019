import ChangeReview.CommandLine
import ChangeReview.Change.Hunk

/-!
# Options

The options that a command knows, and the values that they take.

## Main definitions

- `OptionSpec`: an option with its spellings and what it takes.
- `Grammar`: the options and positional values of one level of a command line.
- `Grammar.root`, `Grammar.check`, `Grammar.review`, `Grammar.init`: the levels.
-/

namespace ChangeReview

/-- What the value of an option must be. -/
inductive ValueKind where
  /-- Any text. -/
  | text
  /-- A text that is not empty. -/
  | path
  /-- A whole number. -/
  | number
  /-- The name of a form of report. -/
  | format
  /-- The name of a colour mode. -/
  | color
  deriving DecidableEq, Repr

/-- A whole number, perhaps after a plus sign. -/
def readNumber? (text : Text) : Option Nat :=
  let digits := if headIs '+' text then text.drop 1 else text
  if digits.isEmpty then none else boundedNumber? digits

/-- What is wrong with a value. -/
def ValueKind.check (value : Text) : ValueKind → Except UsageFault Unit
  | .text => .ok ()
  | .path => if value.isEmpty then .error .invalidValue else .ok ()
  | .number => if (readNumber? value).isSome then .ok () else .error .valueValidation
  | .format => if (Report.formatNames.lookup value).isSome then .ok () else .error .invalidValue
  | .color => if (ColorMode.names.lookup value).isSome then .ok () else .error .invalidValue

/-- What an option does. -/
inductive Effect where
  /-- It takes one value. -/
  | takes (kind : ValueKind)
  /-- It is set. -/
  | switch
  /-- It is counted. -/
  | counter
  /-- It is answered with a text, in place of the command. -/
  | answer (fault : UsageFault)
  deriving DecidableEq, Repr

/-- An option. -/
structure OptionSpec where
  /-- The name after two hyphens. -/
  long : Text
  /-- The letter after one hyphen. -/
  short : Option Char
  effect : Effect
  deriving DecidableEq, Repr

/-- One level of a command line. -/
structure Grammar where
  options : List OptionSpec
  /-- Whether any number of paths may stand between the options. -/
  takesPaths : Bool
  /-- The names of the commands, one of which must follow the options. -/
  commands : List Text
  deriving DecidableEq, Repr

namespace Grammar

/-- The options of every level. -/
def general : List OptionSpec :=
  [⟨"verbose", some 'v', .counter⟩, ⟨"quiet", some 'q', .switch⟩,
    ⟨"color", none, .takes .color⟩, ⟨"no-config", none, .switch⟩,
    ⟨"help", some 'h', .answer .displayHelp⟩]

/-- The options before the command. -/
def root : Grammar :=
  { options := general ++ [⟨"version", some 'V', .answer .displayVersion⟩]
    takesPaths := false
    commands := ["check", "review", "init", "help"] }

/-- The options of a check. -/
def check : Grammar :=
  { options := general ++
      [⟨"config", some 'c', .takes .path⟩, ⟨"diff", none, .takes .text⟩,
        ⟨"format", some 'f', .takes .format⟩, ⟨"output", some 'o', .takes .path⟩,
        ⟨"warn-only", none, .switch⟩, ⟨"strict", none, .switch⟩]
    takesPaths := true
    commands := [] }

/-- The options of a review. -/
def review : Grammar :=
  { options := general ++
      [⟨"base", none, .takes .text⟩, ⟨"repo", none, .takes .text⟩, ⟨"pr", none, .takes .number⟩,
        ⟨"token", none, .takes .text⟩, ⟨"api-url", none, .takes .text⟩,
        ⟨"max-comments", none, .takes .number⟩, ⟨"dry-run", none, .switch⟩,
        ⟨"config", some 'c', .takes .path⟩, ⟨"format", some 'f', .takes .format⟩]
    takesPaths := false
    commands := [] }

/-- The options of an initialisation. -/
def init : Grammar :=
  { options := general ++ [⟨"output", some 'o', .takes .path⟩, ⟨"force", none, .switch⟩]
    takesPaths := false
    commands := [] }

end Grammar

end ChangeReview
