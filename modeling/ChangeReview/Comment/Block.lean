import ChangeReview.Comment
import ChangeReview.Text.Alphanumeric

/-!
# Documentation blocks

The `/** … */` block above a declaration. Between a block and its declaration only blank lines and
decorators may stand; the walk upward over them is the prelude.

## Main definitions

- `DocBlock`: a block with the indices of its first and last line.
- `DocBlock.above?`: the block that belongs to the declaration on a line.
-/

namespace ChangeReview

/-- How many lines a block was recognised to have. -/
inductive DocBlock.Shape where
  | singleLine
  | multiLine
  deriving DecidableEq, Repr

/-- A documentation block. -/
structure DocBlock where
  /-- Whether the block was recognised on one line. -/
  shape : DocBlock.Shape
  /-- The index of the first line, counted from zero. -/
  first : Nat
  /-- The index of the last line, counted from zero. -/
  last : Nat
  /-- The lines of the block, with line feeds between them. -/
  text : Text
  deriving DecidableEq, Repr

namespace DocBlock

/-- Drops `mark` from the start of the text, if it stands there. -/
def dropStart (mark text : Text) : Text :=
  if mark.isPrefixOf text then text.drop mark.length else text

/-- Drops `mark` from the end of the text, if it stands there. -/
def dropEnd (mark text : Text) : Text :=
  if mark.isSuffixOf text then text.take (text.length - mark.length) else text

/-- The trimmed text between the delimiters. -/
def innerText (block : DocBlock) : Text :=
  Text.trim (dropEnd "*/" (dropStart "/**" (Text.trim block.text)))

/-- An `@`, an identifier and an opening parenthesis or brace. -/
def isDecorator (trimmed : Text) : Bool :=
  match trimmed with
  | '@' :: rest =>
    let inName (c : Char) := isLetterOrNumber c || c == '_' || c == '$'
    let after := Text.trimStart (rest.dropWhile inName)
    rest.head?.any inName && (headIs '(' after || headIs '{' after)
  | _ => false

/-- A line that the walk upward looks at. -/
structure Line where
  /-- The index, counted from zero. -/
  index : Nat
  /-- The line without blanks at its ends. -/
  trimmed : Text
  /-- Whether the line begins inside a block comment. -/
  startsOpen : Bool
  deriving DecidableEq, Repr

namespace Line

/-- Whether the line may stand between a block and its declaration. -/
def isPrelude (line : Line) : Bool :=
  line.trimmed.isEmpty || (!line.startsOpen && isDecorator line.trimmed)

/-- Whether a comment closes on the line. -/
def hasCloser (line : Line) : Bool := Text.contains "*/" line.trimmed

/-- Whether the line begins with the opening of a block. -/
def startsBlock (line : Line) : Bool := List.isPrefixOf "/**".toList line.trimmed

/-- Whether the line begins with the opening of any comment. -/
def startsComment (line : Line) : Bool := List.isPrefixOf "/*".toList line.trimmed

/-- Whether the line ends with the end of a comment. -/
def endsComment (line : Line) : Bool := List.isSuffixOf "*/".toList line.trimmed

/-- Whether the line holds a whole block and nothing else. -/
def isWholeBlock (line : Line) : Bool :=
  4 < line.trimmed.length && line.startsBlock && line.endsComment

end Line

/-- The lines of a file as the walk upward sees them. -/
def annotate (lines : List Text) : List Line :=
  (lines.zip (Comment.startsOpen lines)).zipIdx.map fun ((line, isOpen), index) =>
    ⟨index, Text.trim line, isOpen⟩

/-- The nearest line, going upward, on which the block around the lines below it opens. -/
def opener? : List Line → Option Line
  | [] => none
  | line :: above =>
    if line.hasCloser then none
    else if line.startsBlock then some line
    else if line.startsComment then none
    else opener? above

/-- The shape and first and last line of a block, where `above` goes upward from the declaration. -/
def extent? (above : List Line) : Option (Shape × Nat × Nat) :=
  let prelude := above.takeWhile (·.isPrelude)
  match above.dropWhile (·.isPrelude) with
  | [] => none
  | line :: above =>
    if line.isWholeBlock then some (.singleLine, line.index, line.index)
    else if line.startsBlock then
      (prelude.reverse.find? (·.hasCloser)).map fun closer => (.multiLine, line.index, closer.index)
    else if line.startsComment then none
    else if line.endsComment || headIs '*' line.trimmed then
      (opener? above).map fun opener => (.multiLine, opener.index, line.index)
    else none

/-- The block that belongs to the declaration on the line with index `target`, if there is one. -/
def above? (lines : List Text) (target : Nat) : Option DocBlock :=
  (extent? ((annotate lines).take target).reverse).map fun (shape, first, last) =>
    { shape, first, last, text := Text.joinWith ['\n'] ((lines.take (last + 1)).drop first) }

end DocBlock

end ChangeReview
