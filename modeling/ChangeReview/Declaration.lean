import ChangeReview.Text.Blank

/-!
# Declarations

A declaration is a class member that a source line begins: a method, or a property built by one of
the reactive factories.

## Main definitions

- `Visibility`, `Accessor`, `DeclarationKind`, `Parameter`: the parts of a declaration.
- `Declaration`: one declared member with the number of its line.
- `Declaration.namedParameters`: the parameters that documentation can name.
- `Declaration.returnsNothing`: whether the declared return type carries no value.
-/

namespace ChangeReview

/-- An access modifier, as a keyword of a declaration or as a tag of its documentation. -/
inductive Visibility where
  | pub
  | priv
  | prot
  deriving DecidableEq, Repr

namespace Visibility

/-- All access modifiers. -/
def all : List Visibility := [pub, priv, prot]

/-- The keyword written on a declaration. -/
def keyword : Visibility → Text
  | pub => "public"
  | priv => "private"
  | prot => "protected"

/-- The tag written in documentation. -/
def tag (visibility : Visibility) : Text := '@' :: visibility.keyword

/-- The modifier that a keyword stands for. -/
def ofKeyword? (word : Text) : Option Visibility := all.find? (·.keyword == word)

end Visibility

/-- Which accessor a method is. -/
inductive Accessor where
  | getter
  | setter
  deriving DecidableEq, Repr

/-- The keyword written before an accessor's name. -/
def Accessor.keyword : Accessor → Text
  | getter => "get"
  | setter => "set"

/-- The accessor that a keyword stands for. -/
def Accessor.ofKeyword? (word : Text) : Option Accessor :=
  [getter, setter].find? (·.keyword == word)

/-- What a declaration declares. -/
inductive DeclarationKind where
  | method
  | computedProperty
  | signal
  | inputProperty
  | outputProperty
  | viewChildProperty
  deriving DecidableEq, Repr

/-- The words that messages use for a kind. -/
def DeclarationKind.label : DeclarationKind → Text
  | method => "method"
  | computedProperty => "computed property"
  | signal => "signal"
  | inputProperty => "input property"
  | outputProperty => "output property"
  | viewChildProperty => "view child property"

/-- A declared parameter. -/
structure Parameter where
  /-- The name that documentation uses for it. -/
  name : Text
  /-- The written type. -/
  declaredType : Text
  deriving DecidableEq, Repr

namespace Parameter

/-- The name that stands for every destructuring pattern. -/
def destructuredName : Text := "destructured"

/-- The type of a parameter without a written one. -/
def unknownType : Text := "unknown"

/-- Whether the parameter bears the name of destructuring patterns. -/
def isDestructured (parameter : Parameter) : Bool := parameter.name == destructuredName

end Parameter

/-- A member that a source line begins. -/
structure Declaration where
  /-- What is declared. -/
  kind : DeclarationKind
  /-- The written access modifier. -/
  visibility : Option Visibility
  /-- The member's name. -/
  name : Text
  /-- The parameters of a method, in order. -/
  parameters : List Parameter
  /-- The written return type of a method. -/
  returnType : Option Text
  /-- Which accessor the method is, if any. -/
  accessor : Option Accessor
  /-- The number of the line, counted from one. -/
  lineNumber : Nat
  deriving DecidableEq, Repr

namespace Declaration

/-- Whether a method is declared. -/
def isMethod (declaration : Declaration) : Bool := declaration.kind == .method

/-- Whether a setter is declared, which has no return type and returns nothing. -/
def isSetter (declaration : Declaration) : Bool := declaration.accessor == some .setter

/-- The parameters that documentation can name. -/
def namedParameters (declaration : Declaration) : List Parameter :=
  declaration.parameters.filter (!·.isDestructured)

/-- The parameters that are destructuring patterns. -/
def destructuredParameters (declaration : Declaration) : List Parameter :=
  declaration.parameters.filter (·.isDestructured)

/-- The return types without a value, written without blanks. -/
def emptyTypes : List Text := ["void", "Promise<void>", "never"]

/-- Whether the written return type, without its blanks, carries no value. -/
def returnsNothing (declaration : Declaration) : Bool :=
  declaration.returnType.any fun type => emptyTypes.contains (type.filter (!isBlank ·))

/-- The kind and name, as messages begin. -/
def subject (declaration : Declaration) : Text :=
  Text.concat [declaration.kind.label, " '", declaration.name, "'"]

end Declaration

end ChangeReview
