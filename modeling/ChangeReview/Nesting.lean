import ChangeReview.Text

/-!
# Bracket nesting

One depth counter serves the four kinds of brackets `()`, `<>`, `{}` and `[]`. The `>` of an arrow
`=>` is no bracket.

## Main definitions

- `Nesting.step`: the depth after a character.
- `Nesting.splitAtClose`: the text up to the bracket that closes the first one, and the rest.
- `Nesting.splitCommas`: the parts between commas outside brackets and string literals.
- `Nesting.splitAssignment`: the text before and after a top-level `=`.
-/

namespace ChangeReview.Nesting

/-- The opening brackets. -/
def isOpener (c : Char) : Bool := c == '(' || c == '<' || c == '{' || c == '['

/-- The closing brackets, where `>` closes only if it does not end an arrow. -/
def isCloser (before c : Char) : Bool :=
  c == ')' || c == '}' || c == ']' || (c == '>' && before != '=')

/-- The depth after `c`, which never falls below zero. -/
def step (before c : Char) (depth : Nat) : Nat :=
  if isOpener c then depth + 1 else if isCloser before c then depth - 1 else depth

/-- The text before and after the first closing bracket that brings `depth` to zero. -/
def closeFrom (before : Char) (depth : Nat) : Text → Option (Text × Text)
  | [] => none
  | c :: rest =>
    if isCloser before c && depth - 1 == 0 then some ([], rest)
    else (closeFrom c (step before c depth) rest).map fun (inner, after) => (c :: inner, after)

/-- The text up to the bracket that closes the one at its head, and the text after that bracket. -/
def splitAtClose (text : Text) : Option (Text × Text) := closeFrom '\x00' 0 text

/-- The quotes that open a string literal. -/
def isQuote (c : Char) : Bool := c == '\x27' || c == '\x22' || c == '\x60'

/-- Puts a character at the front of the first part. -/
def consFirst (c : Char) : List Text → List Text
  | [] => [[c]]
  | part :: parts => (c :: part) :: parts

/-- The parts from here on, inside the literal `quote` if there is one. -/
def commasFrom (before : Char) (depth : Nat) (quote : Option Char) : Text → List Text
  | [] => [[]]
  | c :: rest =>
    match quote with
    | some q =>
      let quote := if c == q && before != '\\' then none else some q
      consFirst c (commasFrom c depth quote rest)
    | none =>
      if isQuote c then consFirst c (commasFrom c depth (some c) rest)
      else if c == ',' && depth == 0 then [] :: commasFrom c depth none rest
      else consFirst c (commasFrom c (step before c depth) none rest)

/-- The parts between the commas that stand outside brackets and string literals. -/
def splitCommas (text : Text) : List Text := commasFrom '\x00' 0 none text

/-- Whether an `=` between these neighbours assigns, rather than compares or draws an arrow. -/
def isAssignment (before : Char) (after : Text) : Bool :=
  !(before == '=' || before == '!' || before == '<' || before == '>') &&
    !(headIs '>' after || headIs '=' after)

/-- The text before and after the first assigning `=` at depth zero. -/
def assignmentFrom (before : Char) (depth : Nat) : Text → Option (Text × Text)
  | [] => none
  | c :: rest =>
    if c == '=' && depth == 0 && isAssignment before rest then some ([], rest)
    else
      (assignmentFrom c (step before c depth) rest).map fun (left, right) => (c :: left, right)

/-- The text before and after the first `=` outside brackets that assigns. -/
def splitAssignment (text : Text) : Option (Text × Text) := assignmentFrom '\x00' 0 text

end ChangeReview.Nesting
