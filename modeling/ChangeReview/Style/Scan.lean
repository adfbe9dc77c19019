import ChangeReview.Change
import ChangeReview.Style.Table
import ChangeReview.Text.Digit
import ChangeReview.Text.Lines
import ChangeReview.Violation

/-!
# Scanning a stylesheet

A changed line that holds one whole declaration is flagged if its property has a utility class, or
else if its value holds a colour or a length in pixels.

## Main definitions

- `Style.declaration?`: the property and value that a line declares.
- `Style.literal?`: the first hardcoded colour or length in a value.
- `Style.violations`: the findings of a stylesheet, in the order of its lines.
-/

namespace ChangeReview.Style

/-- The characters that no value holds: a line with one of them in it is no declaration. -/
def breaksValue (c : Char) : Bool := c == ';' || c == '\x7b' || c == '\x7d'

/-- Drops one semicolon, and the blanks after it, at the end of a text. -/
def dropTerminator (text : Text) : Text :=
  let trimmed := Text.trimEnd text
  if trimmed.getLast? == some ';' then trimmed.dropLast else text

/-- The value that is written after the colon of a declaration: the text without blanks at its ends,
or its last blank if there is nothing else. -/
def value? (text : Text) : Option Text :=
  let text := dropTerminator text
  if text.any breaksValue then none
  else if (Text.trim text).isEmpty then text.getLast?.map (List.cons · [])
  else some (Text.trim text)

/-- A character of a property's name. -/
def isPropertyPart (c : Char) : Bool := c.isAlpha || c == '-'

/-- The property and the value that a line declares, if it holds one declaration and no more. -/
def declaration? (line : Text) : Option (Text × Text) :=
  let text := Text.trimStart line
  let property := text.takeWhile isPropertyPart
  if property.head?.any Char.isAlpha then
    match Text.trimStart (text.dropWhile isPropertyPart) with
    | ':' :: rest => (value? rest).map fun value => (property, value)
    | _ => none
  else none

/-- A hexadecimal digit. -/
def isHexDigit (c : Char) : Bool :=
  c.isDigit || ('a' ≤ c && c ≤ 'f') || ('A' ≤ c && c ≤ 'F')

/-- The colour at the head of the text: a `#` and eight, six, four or three hexadecimal digits that
no word character follows, where more digits are preferred. -/
def color? (text : Text) : Option Text :=
  match text with
  | '#' :: rest =>
    let digits := (rest.takeWhile isHexDigit).length
    ([8, 6, 4, 3].find? fun count =>
        count ≤ digits && !startsWithWordChar (rest.drop count)).map
      fun count => '#' :: rest.take count
  | _ => none

/-- A run of digits at the head of the text, unless it is empty, and what follows. -/
def digits? (text : Text) : Option (Text × Text) :=
  if text.head?.any isDecimalDigit then
    some (text.takeWhile isDecimalDigit, text.dropWhile isDecimalDigit)
  else none

/-- Whether the text begins with the unit of pixels as a whole word. -/
def startsUnit (text : Text) : Bool :=
  "px".toList.isPrefixOf text && !startsWithWordChar (text.drop "px".toList.length)

/-- The length in pixels at the head of the text, which no word character may precede. -/
def length? (before : Option Char) (text : Text) : Option Text :=
  if before.any isWordChar then none
  else do
    let (whole, rest) ← digits? text
    if startsUnit rest then some (whole ++ "px")
    else if headIs '.' rest then
      let (fraction, rest) ← digits? (rest.drop 1)
      if startsUnit rest then some (whole ++ '.' :: fraction ++ "px") else none
    else none

/-- The first colour or length in the text. -/
def literalFrom? (before : Option Char) : Text → Option Text
  | [] => none
  | c :: rest =>
    color? (c :: rest) <|> length? before (c :: rest) <|> literalFrom? (some c) rest

/-- The first hardcoded colour or length in a value. -/
def literal? (value : Text) : Option Text := literalFrom? none value

/-- The finding for a property that has a utility class. -/
def utilityViolation (path : Path) (lineNumber : Nat) (name value : Text) (property : Property) :
    Violation :=
  { path
    line := lineNumber
    severity := if property.strict then .error else .warning
    rule := .styleUtility
    message :=
      Text.concat ["'", name, ": ", value, "' has a ", property.category.name,
        " utility: use \x60", property.suggest value, "\x60"]
    onChangedLine := true }

/-- The finding for a hardcoded value. -/
def literalViolation (path : Path) (lineNumber : Nat) (name literal : Text) : Violation :=
  { path
    line := lineNumber
    severity := .warning
    rule := .styleLiteral
    message :=
      Text.concat ["Hardcoded value '", literal, "' in '", name,
        "': use a design token or variable"]
    onChangedLine := true }

/-- The finding on a changed line outside comments. -/
def lineViolation? (table : List Property) (path : Path) (lineNumber : Nat) (line : Text) :
    Option Violation := do
  let (name, value) ← declaration? line
  match lookup? table name with
  | some property => some (utilityViolation path lineNumber name value property)
  | none => (literal? value).map (literalViolation path lineNumber name)

/-- What a line is to the scan. -/
inductive LineRole where
  /-- The line begins inside a block comment or with the opening of one. -/
  | comment
  /-- The line begins with a line comment. -/
  | remark
  /-- Any other line. -/
  | code
  deriving DecidableEq, Repr

/-- What a line is to the scan, given whether a block comment is open before it. -/
def roleOf (isOpen : Bool) (line : Text) : LineRole :=
  let trimmed := Text.trimStart line
  if isOpen || "/*".toList.isPrefixOf trimmed then .comment
  else if "//".toList.isPrefixOf trimmed then .remark
  else .code

/-- Whether a block comment counts as open after a line. -/
def openAfter (isOpen : Bool) (line : Text) : Bool :=
  roleOf isOpen line == .comment && !Text.contains "*/" line

/-- The findings from a line on, given whether a block comment is open before it. -/
def violationsFrom (table : List Property) (path : Path) (changed : ChangedLines)
    (isOpen : Bool) (lineNumber : Nat) : List Text → List Violation
  | [] => []
  | line :: lines =>
    let here :=
      if roleOf isOpen line == .code && changed.contains lineNumber then
        (lineViolation? table path lineNumber line).toList
      else []
    here ++ violationsFrom table path changed (openAfter isOpen line) (lineNumber + 1) lines

/-- The findings of a stylesheet, in the order of its lines. -/
def violations (table : List Property) (path : Path) (content : Text) (changed : ChangedLines) :
    List Violation :=
  if changed.isEmpty then []
  else violationsFrom table path changed false 1 (Text.lines content)

end ChangeReview.Style
