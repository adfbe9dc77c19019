import ChangeReview.Glob

/-!
# Reading glob patterns

A pattern is read character by character. What a pair of stars means depends on the characters
around it: only between slashes, or at an end of the pattern or of an alternative, does it stand for
directories.

## Main definitions

- `Glob.Fault`: what can be wrong with a pattern.
- `Glob.parse`: the tokens of a pattern.
-/

namespace ChangeReview.Glob

/-- What is wrong with a pattern. -/
inductive Fault where
  | unclosedClass
  | invalidRange (lo hi : Char)
  | unopenedAlternates
  | unclosedAlternates
  | danglingEscape
  deriving DecidableEq, Repr

/-- What is wrong, in words. -/
def Fault.message : Fault → Text
  | unclosedClass => "unclosed character class; missing ']'"
  | invalidRange lo hi => Text.concat ["invalid range; '", [lo], "' > '", [hi], "'"]
  | unopenedAlternates =>
    "unopened alternate group; missing '\x7b' (maybe escape '\x7d' with '[\x7d]'?)"
  | unclosedAlternates =>
    "unclosed alternate group; missing '\x7d' (maybe escape '\x7b' with '[\x7b]'?)"
  | danglingEscape => "dangling '\\'"

/-- A group of alternatives whose closing brace is still to come. -/
structure Frame where
  /-- The tokens before the group, the latest first. -/
  outer : List Token
  /-- The finished alternatives, the latest first. -/
  finished : List (List Token)
  deriving Repr

/-- A class whose closing bracket is still to come. -/
structure OpenClass where
  /-- Whether the class is the complement of its ranges. -/
  negated : Bool
  /-- The ranges, the latest first. -/
  ranges : List (Char × Char)
  /-- Whether nothing of the class was read yet but its opening. -/
  isFirst : Bool
  /-- Whether a hyphen was read that may join two characters to a range. -/
  inRange : Bool
  deriving Repr

/-- What the next character is read as. -/
inductive Mode where
  /-- A part of the pattern. -/
  | plain
  /-- The character after a backslash. -/
  | escaped
  /-- The second of two stars, after the character `before` them. -/
  | secondStar (before : Option Char)
  /-- A slash that belongs to two stars before it. -/
  | absorbed
  /-- The character after an opening bracket. -/
  | classStart
  /-- A character inside brackets. -/
  | inClass (pending : OpenClass)
  deriving Repr

/-- Where the reading of a pattern stands. -/
structure State where
  /-- The tokens of the pattern or alternative being read, the latest first. -/
  tokens : List Token := []
  /-- The groups around it, the innermost first. -/
  frames : List Frame := []
  /-- What the next character is read as. -/
  mode : Mode := .plain
  /-- The last character that was read. -/
  last : Option Char := none
  deriving Repr

namespace State

/-- Adds tokens, and goes on in plain mode. -/
def push (state : State) (tokens : List Token) : State :=
  { state with tokens := tokens.reverse ++ state.tokens, mode := .plain }

/-- Whether the next characters end an alternative or the pattern. -/
def endsHere (state : State) (rest : Text) : Bool :=
  match rest with
  | [] => true
  | c :: _ => (c == ',' || c == '\x7d') && !state.frames.isEmpty

/-- Puts directories in the place of the last token, unless that already stands for directories. -/
def pushDirs (state : State) (dirs : Token) : State :=
  match state.tokens with
  | .leadingDirs :: _ => state
  | .trailingDirs :: _ => state
  | _ :: tokens => { state with tokens := dirs :: tokens }
  | [] => { state with tokens := [dirs] }

/-- Reads the second of two stars, with `rest` after it. -/
def readStars (state : State) (before : Option Char) (rest : Text) : State :=
  let state := { state with mode := .plain }
  let atSlash := headIs '/' rest
  if state.tokens.isEmpty then
    if atSlash then { state.push [.leadingDirs] with mode := .absorbed }
    else if rest.isEmpty then state.push [.leadingDirs]
    else state.push [.star, .star]
  else
    let mayBeDirs :=
      before == some '/' ||
        (!state.frames.isEmpty && (before == some ',' || before == some '\x7b'))
    if !mayBeDirs then state.push [.star, .star]
    else if state.endsHere rest then state.pushDirs .trailingDirs
    else if atSlash then { state.pushDirs .innerDirs with mode := .absorbed }
    else state.push [.star, .star]

/-- Reads a character inside brackets. -/
def readClass (state : State) (pending : OpenClass) (c : Char) : Except Fault State :=
  let goOn (ranges : List (Char × Char)) (inRange : Bool) : Except Fault State :=
    .ok { state with mode := .inClass { pending with ranges, isFirst := false, inRange } }
  if c == ']' && !pending.isFirst then
    let ranges := if pending.inRange then ('-', '-') :: pending.ranges else pending.ranges
    .ok (state.push [.charClass pending.negated ranges.reverse])
  else if c == '-' && !pending.isFirst && !pending.inRange then goOn pending.ranges true
  else if pending.inRange then
    match pending.ranges with
    | (lo, _) :: ranges =>
      if c < lo then .error (.invalidRange lo c) else goOn ((lo, c) :: ranges) false
    | [] => goOn [(c, c)] false
  else goOn ((c, c) :: pending.ranges) false

/-- Reads a character outside brackets. -/
def readPlain (state : State) (c : Char) (rest : Text) : Except Fault State :=
  match c with
  | '?' => .ok (state.push [.any])
  | '*' =>
    if headIs '*' rest then .ok { state with mode := .secondStar state.last }
    else .ok (state.push [.star])
  | '[' => .ok { state with mode := .classStart }
  | '\x7b' => .ok { state with tokens := [], frames := ⟨state.tokens, []⟩ :: state.frames }
  | '\x7d' =>
    match state.frames with
    | [] => .error .unopenedAlternates
    | frame :: frames =>
      let branches := (state.tokens.reverse :: frame.finished).reverse
      .ok { state with tokens := .alternates branches :: frame.outer, frames }
  | ',' =>
    match state.frames with
    | [] => .ok (state.push [.literal ','])
    | frame :: frames =>
      let frame := { frame with finished := state.tokens.reverse :: frame.finished }
      .ok { state with tokens := [], frames := frame :: frames }
  | '\\' => .ok { state with mode := .escaped }
  | c => .ok (state.push [.literal c])

/-- Reads a character in the current mode, with `rest` after it. -/
def read (state : State) (c : Char) (rest : Text) : Except Fault State :=
  match state.mode with
  | .plain => readPlain state c rest
  | .escaped => .ok (state.push [.literal c])
  | .secondStar before => .ok (state.readStars before rest)
  | .absorbed => .ok { state with mode := .plain }
  | .classStart =>
    if c == '!' || c == '^' then .ok { state with mode := .inClass ⟨true, [], true, false⟩ }
    else state.readClass ⟨false, [], true, false⟩ c
  | .inClass pending => state.readClass pending c

/-- The tokens of the pattern whose end is reached. -/
def finish (state : State) : Except Fault (List Token) :=
  match state.mode with
  | .escaped => .error .danglingEscape
  | .classStart => .error .unclosedClass
  | .inClass _ => .error .unclosedClass
  | _ => if state.frames.isEmpty then .ok state.tokens.reverse else .error .unclosedAlternates

/-- Reads the rest of a pattern. -/
def readAll (state : State) : Text → Except Fault (List Token)
  | [] => state.finish
  | c :: rest => do
    let state ← state.read c rest
    readAll { state with last := some c } rest

end State

/-- The tokens of a pattern. -/
def parse (pattern : Text) : Except Fault (List Token) := State.readAll {} pattern

end ChangeReview.Glob
