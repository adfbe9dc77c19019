import ChangeReview.Text.Blank

/-!
# Utility classes for style properties

A table of stylesheet properties that have a utility class, with a template for the class.

## Main definitions

- `Style.Category`, `Style.Property`: the entries of the table.
- `Style.Property.suggest`: the class for a declared value.
- `Style.builtin`: the table that is used unless another one is given.
-/

namespace ChangeReview.Style

/-- What a style property is about. -/
inductive Category where
  | layout
  | spacing
  | sizing
  | typography
  | color
  | border
  deriving DecidableEq, Repr

namespace Category

/-- All categories. -/
def all : List Category := [layout, spacing, sizing, typography, color, border]

/-- The word for a category. -/
def name : Category → Text
  | layout => "layout"
  | spacing => "spacing"
  | sizing => "sizing"
  | typography => "typography"
  | color => "color"
  | border => "border"

/-- The category with a name. -/
def ofName? (name : Text) : Option Category := all.find? (·.name == name)

end Category

/-- A style property that has a utility class. -/
structure Property where
  /-- The name of the property. -/
  name : Text
  /-- The class, with a placeholder for the value. -/
  template : Text
  /-- What the property is about. -/
  category : Category
  /-- Whether a use of the property is an error. -/
  strict : Bool
  deriving DecidableEq, Repr

/-- The text that stands for the value in a template. -/
def placeholder : Text := "\x7bvalue\x7d"

/-- The mark that raises a declaration's priority. -/
def importantMark : Text := "!important"

/-- Drops every priority mark at the start of a reversed value. -/
def dropImportant (reversed : Text) : Text :=
  if importantMark.reverse.isPrefixOf reversed then
    dropImportant (reversed.drop importantMark.length)
  else reversed
termination_by reversed.length
decreasing_by
  rename_i h
  have hlen := (List.isPrefixOf_iff_prefix.1 h).length_le
  have hpos : 0 < importantMark.length := by decide
  simp only [List.length_drop, List.length_reverse] at hlen ⊢
  omega

/-- The value without priority marks at its end and blanks at both ends. -/
def plainValue (value : Text) : Text := Text.trim (dropImportant value.reverse).reverse

/-- Whether a value is made of keywords: small letters, hyphens and spaces. -/
def isKeyword (value : Text) : Bool := value.all fun c => c.isLower || c == '-' || c == ' '

/-- The value as a part of a class name: keywords with hyphens, anything else in brackets. -/
def classValue (value : Text) : Text :=
  let value := plainValue value
  if isKeyword value then Text.replaceChar ' ' "-" value
  else Text.concat ["[", Text.replaceChar ' ' "_" value, "]"]

/-- The class that says the same as a declaration with this value. -/
def Property.suggest (property : Property) (value : Text) : Text :=
  Text.replace placeholder (classValue value) property.template

/-- The entry for a property, whose case does not matter. -/
def lookup? (table : List Property) (name : Text) : Option Property :=
  table.find? fun property => Text.eqIgnoreAsciiCase property.name name

/-- The properties that have a utility class. -/
def builtin : List Property :=
  [⟨"display", "\x7bvalue\x7d", .layout, true⟩,
    ⟨"position", "\x7bvalue\x7d", .layout, true⟩,
    ⟨"flex-direction", "flex-\x7bvalue\x7d", .layout, true⟩,
    ⟨"flex-wrap", "flex-\x7bvalue\x7d", .layout, true⟩,
    ⟨"justify-content", "justify-\x7bvalue\x7d", .layout, true⟩,
    ⟨"align-items", "items-\x7bvalue\x7d", .layout, true⟩,
    ⟨"overflow", "overflow-\x7bvalue\x7d", .layout, false⟩,
    ⟨"gap", "gap-\x7bvalue\x7d", .spacing, true⟩,
    ⟨"margin", "m-\x7bvalue\x7d", .spacing, true⟩,
    ⟨"margin-top", "mt-\x7bvalue\x7d", .spacing, true⟩,
    ⟨"margin-right", "mr-\x7bvalue\x7d", .spacing, true⟩,
    ⟨"margin-bottom", "mb-\x7bvalue\x7d", .spacing, true⟩,
    ⟨"margin-left", "ml-\x7bvalue\x7d", .spacing, true⟩,
    ⟨"padding", "p-\x7bvalue\x7d", .spacing, true⟩,
    ⟨"padding-top", "pt-\x7bvalue\x7d", .spacing, true⟩,
    ⟨"padding-right", "pr-\x7bvalue\x7d", .spacing, true⟩,
    ⟨"padding-bottom", "pb-\x7bvalue\x7d", .spacing, true⟩,
    ⟨"padding-left", "pl-\x7bvalue\x7d", .spacing, true⟩,
    ⟨"width", "w-\x7bvalue\x7d", .sizing, false⟩,
    ⟨"height", "h-\x7bvalue\x7d", .sizing, false⟩,
    ⟨"min-width", "min-w-\x7bvalue\x7d", .sizing, false⟩,
    ⟨"max-width", "max-w-\x7bvalue\x7d", .sizing, false⟩,
    ⟨"min-height", "min-h-\x7bvalue\x7d", .sizing, false⟩,
    ⟨"max-height", "max-h-\x7bvalue\x7d", .sizing, false⟩,
    ⟨"font-size", "text-\x7bvalue\x7d", .typography, false⟩,
    ⟨"font-weight", "font-\x7bvalue\x7d", .typography, true⟩,
    ⟨"text-align", "text-\x7bvalue\x7d", .typography, true⟩,
    ⟨"line-height", "leading-\x7bvalue\x7d", .typography, false⟩,
    ⟨"text-transform", "\x7bvalue\x7d", .typography, true⟩,
    ⟨"color", "text-\x7bvalue\x7d", .color, false⟩,
    ⟨"background-color", "bg-\x7bvalue\x7d", .color, false⟩,
    ⟨"border-color", "border-\x7bvalue\x7d", .color, false⟩,
    ⟨"border-radius", "rounded-\x7bvalue\x7d", .border, false⟩,
    ⟨"border-width", "border-\x7bvalue\x7d", .border, false⟩,
    ⟨"border-style", "border-\x7bvalue\x7d", .border, true⟩]

end ChangeReview.Style
