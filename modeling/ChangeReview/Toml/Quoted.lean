import ChangeReview.Toml.Scalar

/-!
# Quoted TOML texts

The four kinds of quoted texts: with and without escapes, on one line and on several.

## Main definitions

- `Toml.basic?`, `Toml.literal?`: texts on one line, read from behind the opening quote.
- `Toml.longBasic?`, `Toml.longLiteral?`: texts on several lines.
-/

namespace ChangeReview.Toml

/-- A control character that no text holds. -/
def isControl (c : Char) : Bool := (c.toNat < 0x20 && c != '\t') || c.toNat == 0x7f

/-- What is left of an escape. -/
inductive Escape where
  /-- No escape is being read. -/
  | none
  /-- The character after a backslash. -/
  | start
  /-- So many hexadecimal digits of a code point, after digits of this value. -/
  | code (left value : Nat)
  deriving DecidableEq, Repr

/-- The character that a letter after a backslash stands for. -/
def escaped? : Char → Option Char
  | 'b' => some '\x08'
  | 't' => some '\t'
  | 'n' => some '\n'
  | 'f' => some '\x0c'
  | 'r' => some '\r'
  | 'e' => some '\x1b'
  | '\x22' => some '\x22'
  | '\\' => some '\\'
  | _ => none

/-- The character of a code point. -/
def scalarOf? (n : Nat) : Option Char := if n.isValidChar then some (Char.ofNat n) else none

/-- A character of an escape: what it adds to the text, and what is left of the escape. -/
def readEscape? (state : Escape) (c : Char) : Option (Text × Escape) :=
  match state with
  | .none => some ([c], .none)
  | .start =>
    if c == 'x' then some ([], .code 2 0)
    else if c == 'u' then some ([], .code 4 0)
    else if c == 'U' then some ([], .code 8 0)
    else (escaped? c).map fun c => ([c], .none)
  | .code left value =>
    if isHexadecimal c then
      let value := 16 * value + digitValue c
      if 1 < left then some ([], .code (left - 1) value)
      else (scalarOf? value).map fun c => ([c], .none)
    else none

/-- Puts characters before the text that is read. -/
def prepend (front : Text) (read : Option (Text × Text)) : Option (Text × Text) :=
  read.map fun (text, rest) => (front ++ text, rest)

/-- A text with escapes up to its closing quote, and what follows it. -/
def basicFrom? (state : Escape) : Text → Option (Text × Text)
  | [] => none
  | c :: rest =>
    if state = .none then
      if c == '\x22' then some ([], rest)
      else if c == '\\' then basicFrom? .start rest
      else if isControl c then none
      else prepend [c] (basicFrom? .none rest)
    else
      match readEscape? state c with
      | none => none
      | some (front, state) => prepend front (basicFrom? state rest)

/-- A text with escapes on one line. -/
def basic? (text : Text) : Option (Text × Text) := basicFrom? .none text

/-- A text without escapes on one line. -/
def literal? : Text → Option (Text × Text)
  | [] => none
  | c :: rest =>
    if c == '\x27' then some ([], rest)
    else if isControl c then none
    else prepend [c] (literal? rest)

/-- Whether a line end stands at the head of the text. -/
def startsLineEnd (text : Text) : Bool := headIs '\n' text || "\r\n".toList.isPrefixOf text

/-- Drops one line end at the head of the text. -/
def dropLineEnd : Text → Text
  | '\n' :: rest => rest
  | '\r' :: '\n' :: rest => rest
  | text => text

/-- Where the reading of a text on several lines stands. -/
inductive LongState where
  /-- After so many quotes in a row. -/
  | quotes (count : Nat)
  /-- In an escape. -/
  | escape (state : Escape)
  /-- In the blanks and line ends after a backslash at the end of a line. -/
  | fold
  deriving DecidableEq, Repr

/-- Whether the blanks after a backslash reach the end of the line. -/
def endsLine (text : Text) : Bool := startsLineEnd (text.dropWhile fun c => c == ' ' || c == '\t')

/-- A text on several lines up to its closing quotes, and what follows them. Up to two quotes may
stand directly before the closing ones. -/
def longFrom? (quote : Char) (escapes : Bool) (state : LongState) : Text → Option (Text × Text)
  | [] =>
    match state with
    | .quotes count => if 3 ≤ count then some (List.replicate (count - 3) quote, []) else none
    | _ => none
  | c :: rest =>
    match state with
    | .escape state =>
      match readEscape? state c with
      | none => none
      | some (front, .none) => prepend front (longFrom? quote escapes (.quotes 0) rest)
      | some (front, state) => prepend front (longFrom? quote escapes (.escape state) rest)
    | .quotes count =>
      if c == quote && count < 5 then longFrom? quote escapes (.quotes (count + 1)) rest
      else if 3 ≤ count then some (List.replicate (count - 3) quote, c :: rest)
      else prepend (List.replicate count quote) <|
        if escapes && c == '\\' then
          if endsLine rest then longFrom? quote escapes .fold rest
          else longFrom? quote escapes (.escape .start) rest
        else if c == '\n' || !isControl c then
          prepend [c] (longFrom? quote escapes (.quotes 0) rest)
        else if c == '\r' && headIs '\n' rest then longFrom? quote escapes (.quotes 0) rest
        else none
    | .fold =>
      if c == ' ' || c == '\t' || c == '\n' then longFrom? quote escapes .fold rest
      else if c == '\r' && headIs '\n' rest then longFrom? quote escapes .fold rest
      else if c == quote then longFrom? quote escapes (.quotes 1) rest
      else if c == '\\' then
        if endsLine rest then longFrom? quote escapes .fold rest
        else longFrom? quote escapes (.escape .start) rest
      else if isControl c then none
      else prepend [c] (longFrom? quote escapes (.quotes 0) rest)

/-- A text with escapes on several lines, without a line end directly after the opening quotes. -/
def longBasic? (text : Text) : Option (Text × Text) :=
  longFrom? '\x22' true (.quotes 0) (dropLineEnd text)

/-- A text without escapes on several lines. -/
def longLiteral? (text : Text) : Option (Text × Text) :=
  longFrom? '\x27' false (.quotes 0) (dropLineEnd text)

end ChangeReview.Toml
