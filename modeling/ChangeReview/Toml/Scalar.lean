import ChangeReview.Toml

/-!
# Unquoted TOML values

Numbers, booleans, dates and times: the values that are written without quotes or brackets.

## Main definitions

- `Toml.scalar?`: the value of an unquoted word.
-/

namespace ChangeReview.Toml

/-- Digits between which single underscores may stand, without the underscores. -/
def ungroup? (isDigit : Char → Bool) (text : Text) : Option Text :=
  let groups := Text.splitOnChar '_' text
  if groups.all fun group => !group.isEmpty && group.all isDigit then some groups.flatten else none

/-- The value of a digit up to `f`. -/
def digitValue (c : Char) : Nat :=
  if c.isDigit then c.toNat - '0'.toNat
  else if c.isLower then c.toNat - 'a'.toNat + 10
  else c.toNat - 'A'.toNat + 10

/-- The number that digits stand for. -/
def valueOf (base : Nat) (digits : Text) : Nat :=
  digits.foldl (fun value c => base * value + digitValue c) 0

/-- An octal digit. -/
def isOctal (c : Char) : Bool := '0' ≤ c && c ≤ '7'

/-- A binary digit. -/
def isBinary (c : Char) : Bool := c == '0' || c == '1'

/-- A hexadecimal digit. -/
def isHexadecimal (c : Char) : Bool :=
  c.isDigit || ('a' ≤ c && c ≤ 'f') || ('A' ≤ c && c ≤ 'F')

/-- A sign, and the text after it. -/
def splitSign : Text → Bool × Text
  | '-' :: rest => (true, rest)
  | '+' :: rest => (false, rest)
  | text => (false, text)

/-- Decimal digits without a superfluous zero at the start. -/
def decimalDigits? (text : Text) : Option Text :=
  match text with
  | '0' :: _ :: _ => none
  | _ => ungroup? Char.isDigit text

/-- A whole number. -/
def integer? (text : Text) : Option Int :=
  match text with
  | '0' :: 'x' :: digits => (ungroup? isHexadecimal digits).map fun d => (valueOf 16 d : Int)
  | '0' :: 'o' :: digits => (ungroup? isOctal digits).map fun d => (valueOf 8 d : Int)
  | '0' :: 'b' :: digits => (ungroup? isBinary digits).map fun d => (valueOf 2 d : Int)
  | text =>
    let (negative, digits) := splitSign text
    (decimalDigits? digits).map fun d =>
      if negative then -(valueOf 10 d : Int) else (valueOf 10 d : Int)

/-- The exponent at the end of a number, zero if there is none. -/
def exponent? (text : Text) : Option Int :=
  match text with
  | [] => some 0
  | _ :: text =>
    let (negative, digits) := splitSign text
    (ungroup? Char.isDigit digits).map fun d =>
      if negative then -(valueOf 10 d : Int) else (valueOf 10 d : Int)

/-- A floating-point number: with a fraction, an exponent, or both. -/
def float? (text : Text) : Option TomlFloat :=
  let (negative, rest) := splitSign text
  if rest == "inf".toList then some (.infinite negative)
  else if rest == "nan".toList then some .notANumber
  else do
    let isMark (c : Char) := c == 'e' || c == 'E'
    let number := rest.takeWhile (!isMark ·)
    let power ← exponent? (rest.dropWhile (!isMark ·))
    match Text.splitFirst '.' number with
    | none =>
      if number.length = rest.length then none
      else
        let whole ← decimalDigits? number
        some (.finite negative (valueOf 10 whole) power)
    | some (whole, fraction) =>
      let whole ← decimalDigits? whole
      let fraction ← ungroup? Char.isDigit fraction
      some (.finite negative (valueOf 10 (whole ++ fraction)) (power - fraction.length))

/-- A number of exactly `count` digits at the head of the text, between two bounds. -/
def field? (count lo hi : Nat) (text : Text) : Option (Nat × Text) :=
  let digits := text.take count
  let value := valueOf 10 digits
  if digits.length = count && digits.all Char.isDigit && lo ≤ value && value ≤ hi then
    some (value, text.drop count)
  else none

/-- The rest of the text after the character `c`. -/
def after? (c : Char) (text : Text) : Option Text :=
  if headIs c text then some (text.drop 1) else none

/-- The number of days of a month. -/
def daysIn (year month : Nat) : Nat :=
  if month = 2 then
    if year % 4 = 0 && (year % 100 != 0 || year % 400 = 0) then 29 else 28
  else if month = 4 || month = 6 || month = 9 || month = 11 then 30
  else 31

/-- The text after a date. -/
def date? (text : Text) : Option Text := do
  let (year, text) ← field? 4 0 9999 text
  let (month, text) ← field? 2 1 12 (← after? '-' text)
  let (_, text) ← field? 2 1 (daysIn year month) (← after? '-' text)
  some text

/-- The text after the seconds of a time of day. -/
def seconds? (text : Text) : Option Text := do
  let (_, text) ← field? 2 0 60 text
  match text with
  | '.' :: fraction =>
    if fraction.head?.any Char.isDigit then some (fraction.dropWhile Char.isDigit) else none
  | text => some text

/-- The text after a time of day, which may have no seconds. -/
def time? (text : Text) : Option Text := do
  let (_, text) ← field? 2 0 23 text
  let (_, text) ← field? 2 0 59 (← after? ':' text)
  if headIs ':' text then seconds? (text.drop 1) else some text

/-- Whether the text is an offset from universal time, or nothing. -/
def isOffset (text : Text) : Bool :=
  match text with
  | [] => true
  | ['Z'] => true
  | ['z'] => true
  | sign :: rest =>
    let offset := do
      let (_, rest) ← field? 2 0 23 rest
      let (_, rest) ← field? 2 0 59 (← after? ':' rest)
      some rest
    (sign == '+' || sign == '-') && offset == some []

/-- Whether the text is a date, a time of day, or both. -/
def isMoment (text : Text) : Bool :=
  match date? text with
  | some [] => true
  | some (separator :: rest) =>
    (separator == 'T' || separator == 't' || separator == ' ') && (time? rest).any isOffset
  | none => time? text == some []

/-- The value of an unquoted word. -/
def scalar? (word : Text) : Option TomlValue :=
  if word == "true".toList then some (.boolean true)
  else if word == "false".toList then some (.boolean false)
  else
    ((integer? word).map .integer) <|> ((float? word).map .float) <|>
      if isMoment word then some .moment else none

end ChangeReview.Toml
