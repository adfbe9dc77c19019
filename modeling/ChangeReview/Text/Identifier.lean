import ChangeReview.Text.Word

/-!
# Identifiers

An identifier starts with an ASCII letter, an underscore or a dollar sign and goes on with word
characters and dollar signs.

## Main definitions

- `isIdentifierStart`, `isIdentifierPart`: the two character classes.
- `takeIdentifier`: the longest identifier at the start of a text, and what follows it.
-/

namespace ChangeReview

/-- An ASCII letter, an underscore or a dollar sign. -/
def isIdentifierStart (c : Char) : Bool := c.isAlpha || c == '_' || c == '$'

/-- A word character or a dollar sign. -/
def isIdentifierPart (c : Char) : Bool := isWordChar c || c == '$'

/-- Whether an identifier starts at the head of the text. -/
def startsIdentifier (text : Text) : Bool := text.head?.any isIdentifierStart

/-- The longest name at the start of the text whose later characters are all `part`s. -/
def takeName (part : Char → Bool) (text : Text) : Option (Text × Text) :=
  if startsIdentifier text then some (text.takeWhile part, text.dropWhile part) else none

/-- The longest identifier at the start of the text, and what follows it. -/
def takeIdentifier (text : Text) : Option (Text × Text) := takeName isIdentifierPart text

end ChangeReview
