import ChangeReview.Text.Blank

/-!
# Open block comments

Which lines of a file begin inside a `/* … */` comment. All delimiters are ASCII, so a line is read
byte by byte. String literals end with their line, and what they hold opens no comment.

## Main definitions

- `Comment.openAfter`: whether a comment is open at the end of a line.
- `Comment.startsOpen`: for each line, whether it begins inside a comment.
-/

namespace ChangeReview.Comment

/-- Where the reading of a line stands. -/
inductive LineState where
  /-- Outside comments and string literals. -/
  | code
  /-- In a string literal that ends with this quote. -/
  | literal (quote : UInt8)
  /-- In a block comment. -/
  | comment
  deriving DecidableEq, Repr

/-- The byte of an ASCII character. -/
def ascii (c : Char) : UInt8 := c.toUInt8

/-- The bytes that open a string literal. -/
def isQuote (b : UInt8) : Bool := b == ascii '\x27' || b == ascii '\x22' || b == ascii '\x60'

/-- Whether a block comment is open once the bytes of a line's rest are read. -/
def openAtEnd : LineState → List UInt8 → Bool
  | .comment, [] => true
  | .comment, [_] => true
  | .comment, a :: b :: rest =>
    if a == ascii '*' && b == ascii '/' then openAtEnd .code rest
    else openAtEnd .comment (b :: rest)
  | .literal _, [] => false
  | .literal _, [_] => false
  | .literal quote, a :: b :: rest =>
    if a == ascii '\\' then openAtEnd (.literal quote) rest
    else if a == quote then openAtEnd .code (b :: rest)
    else openAtEnd (.literal quote) (b :: rest)
  | .code, [] => false
  | .code, [_] => false
  | .code, a :: b :: rest =>
    if a == ascii '/' && b == ascii '/' then false
    else if a == ascii '/' && b == ascii '*' then openAtEnd .comment rest
    else if isQuote a then openAtEnd (.literal a) (b :: rest)
    else openAtEnd .code (b :: rest)

/-- Whether a block comment is open after the line, given whether one is open before it. -/
def openAfter (isOpen : Bool) (line : Text) : Bool :=
  openAtEnd (if isOpen then .comment else .code) line.utf8

/-- For each line, whether it begins inside a block comment, given whether the first one does. -/
def startsOpenFrom (isOpen : Bool) : List Text → List Bool
  | [] => []
  | line :: lines => isOpen :: startsOpenFrom (openAfter isOpen line) lines

/-- For each line of a file, whether it begins inside a block comment. -/
def startsOpen (lines : List Text) : List Bool := startsOpenFrom false lines

end ChangeReview.Comment
