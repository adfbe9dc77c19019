import ChangeReview.Comment.Block
import ChangeReview.Documentation.Tag

/-!
# Documentation of a declaration

The discrepancies between a declaration and the documentation block above it.

## Main definitions

- `Discrepancy`: what can be wrong, with `Discrepancy.message` and `Discrepancy.isCritical`.
- `VoidReturn`: whether methods that return nothing need a return tag.
- `discrepancies`: everything that is wrong with a declaration's documentation, in order.
-/

namespace ChangeReview.Documentation

/-- A disagreement between a declaration and its documentation. -/
inductive Discrepancy where
  | missingDocumentation
  | missingVisibilityTag (expected : Visibility)
  | multipleVisibilityTags (found : List Visibility)
  | visibilityTagMismatch (expected found : Visibility)
  | missingReturnTag
  | missingParamTag (name : Text)
  | missingParamType (name : Text)
  | extraParamTag (name : Text)
  | multiLineReactiveDoc
  | emptyDescription
  deriving DecidableEq, Repr

namespace Discrepancy

/-- Whether the documentation says something wrong, rather than too little. -/
def isCritical : Discrepancy → Bool
  | visibilityTagMismatch .. => true
  | extraParamTag .. => true
  | _ => false

/-- What is wrong, in words. -/
def message : Discrepancy → Text
  | missingDocumentation => "missing documentation comment"
  | missingVisibilityTag expected =>
    Text.concat ["documentation is missing the ", expected.tag, " tag"]
  | multipleVisibilityTags found =>
    Text.concat ["documentation has multiple visibility tags: ",
      Text.joinWith ", " (found.map Visibility.tag)]
  | visibilityTagMismatch expected found =>
    Text.concat ["documentation tag ", found.tag, " does not match ", expected.keyword,
      " visibility"]
  | missingReturnTag => "documentation is missing a @returns tag"
  | missingParamTag name => Text.concat ["documentation is missing @param for '", name, "'"]
  | missingParamType name =>
    Text.concat ["@param for '", name, "' has no \x7btype\x7d annotation"]
  | extraParamTag name => Text.concat ["@param '", name, "' does not match any parameter"]
  | multiLineReactiveDoc =>
    "reactive property documentation must be a single-line /** ... */ comment"
  | emptyDescription => "documentation comment has an empty description"

end Discrepancy

/-- Whether methods that return nothing need a return tag. -/
inductive VoidReturn where
  | require
  | exempt
  deriving DecidableEq, Repr

/-- Disagreements about the access modifier. -/
def visibilityDiscrepancies (declaration : Declaration) (block : DocBlock) : List Discrepancy :=
  match declaration.visibility with
  | none => []
  | some expected =>
    match visibilityTags block.text with
    | [] => [.missingVisibilityTag expected]
    | [found] => if found = expected then [] else [.visibilityTagMismatch expected found]
    | found => [.multipleVisibilityTags found]

/-- A missing return tag. -/
def returnDiscrepancies (voidReturn : VoidReturn) (declaration : Declaration) (block : DocBlock) :
    List Discrepancy :=
  if declaration.isSetter || hasReturnTag block.text
      || (voidReturn = .exempt && declaration.returnsNothing) then []
  else [.missingReturnTag]

/-- What is wrong with the tag of one declared parameter. -/
def parameterDiscrepancy? (tags : List ParamTag) (name : Text) : Option Discrepancy :=
  match tags.find? (·.name == name) with
  | none => some (.missingParamTag name)
  | some tag => if tag.hasType then none else some (.missingParamType name)

/-- Whether a tag stands for a destructuring pattern: its fields have tags of their own, or it is
named after the pattern's type. -/
def namesPattern (declaration : Declaration) (tags : List ParamTag) (tag : ParamTag) : Bool :=
  tags.any (fun other => (tag.name ++ ['.']).isPrefixOf other.name) ||
    declaration.destructuredParameters.any fun pattern =>
      Text.eqIgnoreAsciiCase pattern.declaredType tag.name

/-- Whether a tag names no parameter of the declaration. -/
def isExtra (declaration : Declaration) (tags : List ParamTag) (tag : ParamTag) : Bool :=
  !tag.name.any (· == '.') && !declaration.namedParameters.any (·.name == tag.name) &&
    !(!declaration.destructuredParameters.isEmpty && namesPattern declaration tags tag)

/-- Disagreements about the parameters. -/
def parameterDiscrepancies (declaration : Declaration) (block : DocBlock) : List Discrepancy :=
  if declaration.namedParameters.isEmpty then []
  else
    let tags := ParamTag.ofText block.text
    declaration.namedParameters.filterMap (fun p => parameterDiscrepancy? tags p.name) ++
      (tags.filter (isExtra declaration tags)).map fun tag => .extraParamTag tag.name

/-- Disagreements about the form of a reactive property's documentation. -/
def formatDiscrepancies (block : DocBlock) : List Discrepancy :=
  match block.shape with
  | .multiLine => [.multiLineReactiveDoc]
  | .singleLine => if block.innerText.isEmpty then [.emptyDescription] else []

/-- Everything that is wrong with a declaration's documentation, in order. -/
def discrepancies (voidReturn : VoidReturn) (declaration : Declaration) :
    Option DocBlock → List Discrepancy
  | none => [.missingDocumentation]
  | some block =>
    visibilityDiscrepancies declaration block ++
      if declaration.isMethod then
        returnDiscrepancies voidReturn declaration block ++
          parameterDiscrepancies declaration block
      else formatDiscrepancies block

end ChangeReview.Documentation
