import ChangeReview.Declaration
import ChangeReview.Nesting
import ChangeReview.Text.Identifier

/-!
# Documentation tags

The tags that a documentation block may hold: an access modifier, a return tag and parameter tags.

## Main definitions

- `visibilityTags`: the access modifiers named by a block, each once.
- `hasReturnTag`: whether a block has a return tag.
- `ParamTag.ofText`: the parameter tags with a readable name, the first of each name.
-/

namespace ChangeReview.Documentation

/-- The texts after each place where `mark` stands. -/
def textsAfter (mark : Text) : Text → List Text
  | [] => []
  | c :: rest =>
    if mark.isPrefixOf (c :: rest) then (c :: rest).drop mark.length :: textsAfter mark rest
    else textsAfter mark rest

/-- The texts after each place where `mark` stands as a whole word. -/
def textsAfterWord (mark text : Text) : List Text :=
  (textsAfter mark text).filter (!startsWithWordChar ·)

/-- The access modifiers whose tags begin the texts at an `@`, in order. -/
def visibilityTagsFrom : Text → List Visibility
  | [] => []
  | c :: rest =>
    let here := Visibility.all.find? fun visibility =>
      visibility.tag.isPrefixOf (c :: rest) &&
        !startsWithWordChar ((c :: rest).drop visibility.tag.length)
    here.toList ++ visibilityTagsFrom rest

/-- The distinct access modifiers named by tags of the text, in order of appearance. -/
def visibilityTags (text : Text) : List Visibility :=
  (visibilityTagsFrom text).foldl (fun found v => if found.contains v then found else found ++ [v])
    []

/-- Whether the text has a return tag, in its singular or plural spelling. -/
def hasReturnTag (text : Text) : Bool :=
  !(textsAfterWord "@return" text).isEmpty || !(textsAfterWord "@returns" text).isEmpty

/-- A parameter tag. -/
structure ParamTag where
  /-- The parameter it names, or `object.field`. -/
  name : Text
  /-- Whether a type that is not blank is written in braces before the name. -/
  hasType : Bool
  deriving DecidableEq, Repr

namespace ParamTag

/-- A character of a tag's name after the first. -/
def isNamePart (c : Char) : Bool := isIdentifierPart c || c == '.'

/-- The type in braces at the head of the text, if it is closed, and the text after it. -/
def splitType (text : Text) : Option Text × Text :=
  if headIs '{' text then
    match Nesting.splitAtClose text with
    | some (inner, after) => (some (inner.drop 1), after)
    | none => (none, text)
  else (none, text)

/-- The name at the head of the text, past blanks and one opening bracket. -/
def readName? (text : Text) : Option Text :=
  let text := Text.trimStart text
  (takeName isNamePart (if headIs '[' text then text.drop 1 else text)).map Prod.fst

/-- The parameter tag whose mark the text follows, if its name can be read. -/
def read? (text : Text) : Option ParamTag :=
  let (type, rest) := splitType (Text.trimStart text)
  (readName? rest).map fun name => ⟨name, type.any fun type => !(Text.trim type).isEmpty⟩

/-- Keeps the first tag of each name. -/
def keepFirst (tags : List ParamTag) : List ParamTag :=
  tags.foldl (fun kept tag => if kept.any (·.name == tag.name) then kept else kept ++ [tag]) []

/-- The parameter tags of a block with a readable name, the first of each name. -/
def ofText (text : Text) : List ParamTag :=
  keepFirst ((textsAfterWord "@param" text).filterMap read?)

end ParamTag

end ChangeReview.Documentation
