import ChangeReview.CommandLine.Options

/-!
# Reading command lines

Arguments are read from left to right. An option's value is checked when the next option or path is
taken up or the arguments end, so that an unknown argument is reported before a bad value to its
left. A command's own arguments are read before the options to its left are checked.

## Main definitions

- `Level`: what was given on one level of a command line.
- `Level.read`: the reading of one level.
- `CommandLine.parse`: the whole command line.
-/

namespace ChangeReview

/-- Values that were read and are still to be checked. -/
structure Pending where
  /-- The option that takes them, or none for paths. -/
  option : Option OptionSpec
  values : List Text
  deriving DecidableEq, Repr

/-- What was given on one level of a command line. -/
structure Level where
  /-- Options with their values: none for a switch. -/
  values : List (Text × Text) := []
  /-- How often the counted option was given. -/
  count : Nat := 0
  paths : List Text := []
  /-- What is still to be checked. -/
  pending : Option Pending := none
  /-- Whether the next argument is the value of the pending option. -/
  awaiting : Bool := false
  /-- Whether two hyphens alone ended the options. -/
  trailing : Bool := false
  deriving DecidableEq, Repr

namespace Level

/-- Whether an option or switch was given. -/
def has (level : Level) (long : Text) : Bool := (level.values.lookup long).isSome

/-- Whether anything was given at all. -/
def isUsed (level : Level) : Bool :=
  !level.values.isEmpty || level.count != 0 || !level.paths.isEmpty

/-- Records an option with its value. An option is given at most once. -/
def record (level : Level) (long value : Text) : Except UsageFault Level :=
  if level.has long then .error .argumentConflict
  else .ok { level with values := level.values ++ [(long, value)] }

/-- Records the value of an option. -/
def recordValue (level : Level) (spec : OptionSpec) (value : Text) : Except UsageFault Level := do
  let level ← level.record spec.long value
  match spec.effect with
  | .takes kind =>
    kind.check value
    .ok level
  | _ => .ok level

/-- Checks and records what is pending. -/
def settle (level : Level) : Except UsageFault Level :=
  let settled := { level with pending := none, awaiting := false }
  match level.pending with
  | none => .ok settled
  | some ⟨none, paths⟩ => do
    paths.forM (ValueKind.path.check ·)
    .ok { settled with paths := settled.paths ++ paths }
  | some ⟨some spec, [value]⟩ => settled.recordValue spec value
  | some ⟨some _, _⟩ => .error .invalidValue

/-- The largest count. -/
def maxCount : Nat := 255

/-- Takes up an option that takes no value. -/
def takeSwitch (level : Level) (spec : OptionSpec) : Except UsageFault Level := do
  let level ← level.settle
  match spec.effect with
  | .counter => .ok { level with count := min maxCount (level.count + 1) }
  | .answer fault => .error fault
  | _ => level.record spec.long []

/-- Takes up an option that takes a value, which may be attached to it. -/
def takeOption (level : Level) (spec : OptionSpec) (attached : Option Text) :
    Except UsageFault Level := do
  let level ← level.settle
  match attached with
  | some value => level.recordValue spec value
  | none => .ok { level with pending := some ⟨some spec, []⟩, awaiting := true }

/-- Reads an argument that begins with two hyphens. -/
def readLong (grammar : Grammar) (level : Level) (text : Text) : Except UsageFault Level :=
  let name := text.takeWhile (· != '=')
  let attached := if name.length < text.length then some (text.drop (name.length + 1)) else none
  match grammar.options.find? (·.long == name) with
  | none => .error .unknownArgument
  | some spec =>
    match spec.effect, attached with
    | .takes _, _ => level.takeOption spec attached
    | _, some _ => .error .tooManyValues
    | _, none => level.takeSwitch spec

/-- The value that is attached to a letter. -/
def attachedValue (text : Text) : Option Text :=
  if text.isEmpty then none else some (if headIs '=' text then text.drop 1 else text)

/-- Reads the letters of an argument that begins with one hyphen. -/
def readShort (grammar : Grammar) (level : Level) : Text → Except UsageFault Level
  | [] => .ok level
  | letter :: rest =>
    match grammar.options.find? (·.short == some letter) with
    | none => .error .unknownArgument
    | some spec =>
      match spec.effect with
      | .takes _ => level.takeOption spec (attachedValue rest)
      | _ => do
        let level ← level.takeSwitch spec
        readShort grammar level rest

/-- Reads a value or path. -/
def readPositional (grammar : Grammar) (level : Level) (argument : Text) :
    Except UsageFault Level :=
  if level.awaiting && !level.trailing then
    .ok { level with
      pending := level.pending.map fun pending =>
        { pending with values := pending.values ++ [argument] }
      awaiting := false }
  else if grammar.takesPaths then
    match level.pending with
    | some ⟨none, paths⟩ => .ok { level with pending := some ⟨none, paths ++ [argument]⟩ }
    | _ => do
      let level ← level.settle
      .ok { level with pending := some ⟨none, [argument]⟩ }
  else if grammar.commands.isEmpty || (level.trailing && grammar.commands.contains argument) then
    .error .unknownArgument
  else .error .invalidSubcommand

/-- Reads an argument that is no command. -/
def readArgument (grammar : Grammar) (level : Level) (argument : Text) : Except UsageFault Level :=
  if level.trailing then level.readPositional grammar argument
  else
    match argument with
    | ['-', '-'] => .ok { level with trailing := true }
    | '-' :: '-' :: text => level.readLong grammar text
    | '-' :: c :: text => level.readShort grammar (c :: text)
    | _ => level.readPositional grammar argument

/-- Whether the next argument may be a command. -/
def mayNameCommand (grammar : Grammar) (level : Level) (argument : Text) : Bool :=
  !level.trailing && !level.awaiting && grammar.commands.contains argument

/-- Reads the arguments of one level, up to a command if there is one. The command comes with the
arguments after it. -/
def read (grammar : Grammar) (level : Level) :
    List Text → Except UsageFault (Level × Option (Text × List Text))
  | [] => .ok (level, none)
  | argument :: arguments =>
    if level.mayNameCommand grammar argument then .ok (level, some (argument, arguments))
    else do
      let level ← level.readArgument grammar argument
      read grammar level arguments

/-- The only value of an option. -/
def value? (level : Level) (long : Text) : Option Text := level.values.lookup long

/-- The value of an option as one of the named ones. -/
def named {α : Type} (level : Level) (long : Text) (names : List (Text × α)) (default : α) : α :=
  ((level.value? long).bind fun value => names.lookup value).getD default

end Level

namespace CommandLine

/-- Complains about two options that exclude each other. -/
def exclude (level : Level) (a b : Text) : Except UsageFault Unit :=
  if level.has a && level.has b then .error .argumentConflict else .ok ()

/-- The check that a level asks for. -/
def checkOf (level : Level) : Except UsageFault Command := do
  exclude level "warn-only" "strict"
  .ok (.check
    { paths := if level.paths.isEmpty then [['.']] else level.paths
      config := level.value? "config"
      base := level.value? "diff"
      format := level.named "format" Report.formatNames .text
      output := level.value? "output"
      warnOnly := level.has "warn-only"
      strict := level.has "strict" })

/-- The address of the hosting service, unless another one is given. -/
def defaultApiUrl : Text := "https://api.github.com"

/-- The review that a level asks for. -/
def reviewOf (level : Level) : Except UsageFault Command :=
  match level.value? "base" with
  | none => .error .missingRequiredArgument
  | some base =>
    .ok (.review
      { base
        repo := level.value? "repo"
        pr := (level.value? "pr").bind readNumber?
        token := level.value? "token"
        apiUrl := (level.value? "api-url").getD defaultApiUrl
        maxComments := (level.value? "max-comments").bind readNumber?
        dryRun := level.has "dry-run"
        config := level.value? "config"
        format := level.named "format" Report.formatNames .markdown })

/-- The initialisation that a level asks for. -/
def initOf (level : Level) : Except UsageFault Command :=
  .ok (.init
    { output := (level.value? "output").getD Config.fileName
      force := level.has "force" })

/-- The grammar of a command, and what it asks for. -/
def commandNamed? (name : Text) : Option (Grammar × (Level → Except UsageFault Command)) :=
  [("check".toList, Grammar.check, checkOf), ("review".toList, Grammar.review, reviewOf),
    ("init".toList, Grammar.init, initOf)].lookup name

/-- The answer to a request for help about the commands with the given names. -/
def helpFault : List Text → UsageFault
  | [] => .displayHelp
  | [name] => if Grammar.root.commands.contains name then .displayHelp else .invalidSubcommand
  | _ => .invalidSubcommand

/-- The command line, whose general options may stand on both sides of the command. On the right
they count for more. -/
def combine (outer inner : Level) (command : Command) : CommandLine :=
  { verbose := if inner.count = 0 then outer.count else inner.count
    quiet := outer.has "quiet" || inner.has "quiet"
    color := inner.named "color" ColorMode.names (outer.named "color" ColorMode.names .auto)
    noConfig := outer.has "no-config" || inner.has "no-config"
    command }

/-- What the arguments after the program's name ask for. -/
def parse (arguments : List Text) : Except UsageFault CommandLine := do
  let (outer, command) ← Level.read Grammar.root {} arguments
  match command with
  | none =>
    let outer ← outer.settle
    .error (if outer.isUsed then .missingSubcommand else .displayHelpOnMissing)
  | some (name, arguments) =>
    match commandNamed? name with
    | none => .error (helpFault arguments)
    | some (grammar, build) =>
      let (inner, _) ← Level.read grammar {} arguments
      let inner ← inner.settle
      let command ← build inner
      let outer ← outer.settle
      .ok (combine outer inner command)

end CommandLine

end ChangeReview
