import ChangeReview.Config
import ChangeReview.Violation

/-!
# Line detectors

Checks that look at a single line for text that should not stay in the code.

## Main definitions

- `Detector`: the four detectors, with rule, severity and message.
- `Detector.fires`: whether a detector finds its text on a line.
- `Detector.enabled`: the detectors that a configuration switches on, in order.
-/

namespace ChangeReview

/-- A check of a single line. -/
inductive Detector where
  | debugStatement
  | breakpoint
  | todo
  | fixme
  deriving DecidableEq, Repr

namespace Detector

/-- All detectors, in the order of their findings. -/
def all : List Detector := [debugStatement, breakpoint, todo, fixme]

/-- The rule that a finding breaks. -/
def rule : Detector → Rule
  | debugStatement => .debugStatement
  | breakpoint => .breakpoint
  | todo => .todo
  | fixme => .fixme

/-- How grave a finding is. -/
def severity : Detector → Severity
  | breakpoint => .error
  | _ => .warning

/-- What a finding says. -/
def message : Detector → Text
  | debugStatement => "Remove console output before merging"
  | breakpoint => "Remove the debugger statement"
  | todo => "Resolve the TODO or track it in an issue"
  | fixme => "Resolve the FIXME before merging"

/-- Whether `word` stands at the head of `text` as a whole word after `before`. -/
def isWordAt (word : Text) (before : Option Char) (text : Text) : Bool :=
  !before.any isWordChar && word.isPrefixOf text && !startsWithWordChar (text.drop word.length)

/-- The console functions that print. -/
def printers : List Text :=
  ["log", "debug", "info", "warn", "error", "trace", "dir", "table"]

/-- Whether a console call stands at the head of `text` after `before`. -/
def isConsoleCallAt (before : Option Char) (text : Text) : Bool :=
  !before.any isWordChar && "console.".toList.isPrefixOf text &&
    printers.any fun printer =>
      let text := text.drop "console.".toList.length
      printer.isPrefixOf text && headIs '(' (Text.trimStart (text.drop printer.length))

/-- Whether a breakpoint statement stands at the head of `text` after `before`. -/
def isBreakpointAt (before : Option Char) (text : Text) : Bool :=
  !before.any (fun c => isIdentifierPart c || c == '.') &&
    "debugger".toList.isPrefixOf text &&
    let after := Text.trimStart (text.drop "debugger".toList.length)
    after.isEmpty || headIs ';' after

/-- Whether the detector finds its text on the line. -/
def fires (detector : Detector) (line : Text) : Bool :=
  match detector with
  | debugStatement => Text.anyPosition isConsoleCallAt none line
  | breakpoint => Text.anyPosition isBreakpointAt none line
  | todo => Text.anyPosition (isWordAt "TODO") none line
  | fixme => Text.anyPosition (isWordAt "FIXME") none line

/-- Whether the configuration switches the detector on. -/
def isEnabled (config : Config.Detectors) : Detector → Bool
  | debugStatement => config.debugStatements
  | breakpoint => config.breakpoints
  | todo => config.todo
  | fixme => config.fixme

/-- The detectors that the configuration switches on, in the order of their findings. -/
def enabled (config : Config.Detectors) : List Detector := all.filter (isEnabled config)

end Detector

end ChangeReview
