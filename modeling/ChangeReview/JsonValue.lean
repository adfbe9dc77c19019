import ChangeReview.Text

/-!
# Writing JSON

JSON values without fractions, and their form on several lines.

## Main definitions

- `JsonValue`: the values.
- `JsonValue.quote`: a text as a JSON string.
- `JsonValue.pretty`: a value, indented by two blanks a level.
-/

namespace ChangeReview

/-- A JSON value. -/
inductive JsonValue where
  | number (n : Nat)
  | string (text : Text)
  | array (items : List JsonValue)
  | object (fields : List (Text × JsonValue))
  deriving Repr

namespace JsonValue

/-- One hexadecimal digit. -/
def hexDigit (n : Nat) : Char := Nat.digitChar n

/-- A character of a JSON string. -/
def escape (c : Char) : Text :=
  if c == '\x22' then ['\\', '\x22']
  else if c == '\\' then ['\\', '\\']
  else if c == '\x08' then ['\\', 'b']
  else if c == '\x0c' then ['\\', 'f']
  else if c == '\n' then ['\\', 'n']
  else if c == '\r' then ['\\', 'r']
  else if c == '\t' then ['\\', 't']
  else if c.toNat < 0x20 then
    ['\\', 'u', '0', '0', hexDigit (c.toNat / 16), hexDigit (c.toNat % 16)]
  else [c]

/-- A text as a JSON string. -/
def quote (text : Text) : Text := '\x22' :: text.flatMap escape ++ ['\x22']

/-- A line feed and the indentation of a level. -/
def newline (level : Nat) : Text := '\n' :: List.replicate (2 * level) ' '

/-- Items between an opening and a closing bracket, each on lines of its own. -/
def enclose (opening closing : Char) (level : Nat) (items : List Text) : Text :=
  if items.isEmpty then [opening, closing]
  else
    Text.concat [[opening], Text.joinWith [','] (items.map (newline (level + 1) ++ ·)),
      newline level, [closing]]

mutual

/-- The form of a value that stands at an indentation level. -/
def prettyAt (level : Nat) : JsonValue → Text
  | number n => Text.ofNat n
  | string text => quote text
  | array items => enclose '[' ']' level (prettyItems (level + 1) items)
  | object fields => enclose '\x7b' '\x7d' level (prettyFields (level + 1) fields)

/-- The forms of the items of an array. -/
def prettyItems (level : Nat) : List JsonValue → List Text
  | [] => []
  | item :: items => prettyAt level item :: prettyItems level items

/-- The forms of the fields of an object. -/
def prettyFields (level : Nat) : List (Text × JsonValue) → List Text
  | [] => []
  | (name, value) :: fields =>
    (quote name ++ ':' :: ' ' :: prettyAt level value) :: prettyFields level fields

end

/-- A value on several lines. -/
def pretty (value : JsonValue) : Text := prettyAt 0 value

end JsonValue

end ChangeReview
