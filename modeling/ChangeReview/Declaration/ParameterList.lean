import ChangeReview.Declaration
import ChangeReview.Nesting

/-!
# Parameter lists

Reading the text between a method's parentheses. A parameter is a name with an optional type and an
optional default, or a destructuring pattern.

## Main definitions

- `Parameter.ofText?`: one parameter from the text between two commas.
- `Parameter.listOfText`: all parameters of a list.
-/

namespace ChangeReview.Parameter

/-- The type at the start of the text, up to a default value. -/
def typeOfText (text : Text) : Text :=
  Text.trim (((Nesting.splitAssignment text).map Prod.fst).getD text)

/-- A parameter whose blank type is unknown. -/
def ofParts (name declaredType : Text) : Parameter :=
  ⟨name, if declaredType.isEmpty then unknownType else declaredType⟩

/-- Whether the text begins with a destructuring pattern. -/
def startsPattern (text : Text) : Bool := headIs '{' text || headIs '[' text

/-- Drops one character `c` from the head of the text, if it stands there. -/
def dropMark (c : Char) (text : Text) : Text := if headIs c text then text.drop 1 else text

/-- The type written after a destructuring pattern. -/
def patternType (text : Text) : Text :=
  let after := ((Nesting.splitAtClose text).map Prod.snd).getD []
  let after := Text.trimStart (dropMark '?' (Text.trimStart after))
  if headIs ':' after then typeOfText (after.drop 1) else []

/-- Drops every leading `...`. -/
def dropSpread : Text → Text
  | '.' :: '.' :: '.' :: rest => dropSpread rest
  | text => text

/-- The name in the text before a type or default: no spread dots, no `?` or `!` at its end. -/
def nameOfText (text : Text) : Text :=
  Text.trim (Text.trimEndBy (fun c => c == '?' || c == '!') (dropSpread (Text.trim text)))

/-- The name and type of a parameter that is no pattern. -/
def ofNamed (text : Text) : Parameter :=
  let declared := ((Nesting.splitAssignment text).map Prod.fst).getD text
  match Text.splitFirst ':' declared with
  | some (name, _) => ofParts (nameOfText name) (typeOfText (text.drop (name.length + 1)))
  | none => ofParts (nameOfText declared) []

/-- The parameter in the text between two commas, none if the text is blank. -/
def ofText? (text : Text) : Option Parameter :=
  let text := Text.trim text
  if text.isEmpty then none
  else if startsPattern text then some (ofParts destructuredName (patternType text))
  else some (ofNamed text)

/-- The parameters in the text between a method's parentheses. -/
def listOfText (text : Text) : List Parameter := (Nesting.splitCommas text).filterMap ofText?

end ChangeReview.Parameter
