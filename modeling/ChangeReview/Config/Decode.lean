import ChangeReview.Decimal.Shortest
import ChangeReview.Failure
import ChangeReview.Text.Visible
import ChangeReview.Toml.Document

/-!
# Decoding a configuration

A configuration file is a TOML document whose tables are the sections of the configuration. A
section may also be an array of its settings in their order. Unknown settings are refused, and of
several faults the one whose key comes first in the order of characters is reported.

## Main definitions

- `Config.decode`: the configuration in the text of a file.
-/

namespace ChangeReview.Config

/-- A value of a document that has been decoded, or what is wrong with it. -/
abbrev Decoded (α : Type) := Except Text α

/-- A text between backticks. -/
def ticked (text : Text) : Text := Text.concat ["\x60", text, "\x60"]

/-- A whole number in decimal digits. -/
def integerText (n : Int) : Text :=
  if n < 0 then '-' :: Text.ofNat n.natAbs else Text.ofNat n.natAbs

/-- A whole number, with the width that it needs if that is unusual, or nothing if it is too
large. -/
def integerText? (n : Int) : Option Text :=
  if -Int.pow 2 63 ≤ n && n < Int.pow 2 64 then some (ticked (integerText n))
  else if -Int.pow 2 127 ≤ n && n < Int.pow 2 127 then
    some (Text.concat [ticked (integerText n), " as i128"])
  else if 0 ≤ n && n < Int.pow 2 128 then some (Text.concat [ticked (integerText n), " as u128"])
  else none

/-- The text of a number of double precision. -/
def floatText (negative : Bool) (number : Decimal.Binary) : Text :=
  let digits : Text :=
    if number.mantissa = 0 then ['0'] else Decimal.positional (Decimal.shortest number)
  let text := if digits.any (· == '.') then digits else digits ++ ".0"
  if negative then '-' :: text else text

/-- The text of a floating-point number, unless it is too large. -/
def floatText? : TomlFloat → Option Text
  | .infinite negative => some (if negative then "-inf" else "inf")
  | .notANumber => some "NaN"
  | .finite negative digits power =>
    if digits = 0 || power + (Nat.toDigits 10 digits).length < -400 then
      some (floatText negative ⟨0, Decimal.minExponent⟩)
    else if 400 < power then none
    else
      (Decimal.nearest? ((⟨digits, 1⟩ : Decimal.Fraction).scale 10 power)).map (floatText negative)

/-- The words for a value that is not what was expected, or what is wrong with the value itself. -/
def describe : TomlValue → Decoded Text
  | .string text => .ok (Text.concat ["string ", text.quoteVisibly])
  | .integer n =>
    match integerText? n with
    | some text => .ok (Text.concat ["integer ", text])
    | none => .error "integer number overflowed"
  | .float value =>
    match floatText? value with
    | some text => .ok (Text.concat ["floating point ", ticked text])
    | none => .error "floating-point number overflowed"
  | .boolean value => .ok (Text.concat ["boolean ", ticked (if value then "true" else "false")])
  | .moment => .ok "map"
  | .array _ => .ok "sequence"
  | .table _ => .ok "map"

/-- The complaint that a value is not what was expected. -/
def mismatch {α : Type} (expected : Text) (value : TomlValue) : Decoded α := do
  .error (Text.concat ["invalid type: ", ← describe value, ", expected ", expected])

/-- A choice between names. -/
def oneOf (names : List Text) : Text :=
  match names.map ticked with
  | [] => "there are no fields"
  | [a] => Text.concat ["expected ", a]
  | [a, b] => Text.concat ["expected ", a, " or ", b]
  | names => Text.concat ["expected one of ", Text.joinWith ", " names]

/-- A text. -/
def text : TomlValue → Decoded Text
  | .string text => .ok text
  | value => mismatch "a string" value

/-- A list of texts. -/
def texts : TomlValue → Decoded (List Text)
  | .array items => items.mapM text
  | value => mismatch "a sequence" value

/-- A switch. -/
def switch : TomlValue → Decoded Bool
  | .boolean value => .ok value
  | value => mismatch "a boolean" value

/-- A number of lines or comments. -/
def count : TomlValue → Decoded Nat
  | .integer n =>
    if 0 ≤ n && n < Int.pow 2 64 then .ok n.toNat
    else if -Int.pow 2 63 ≤ n && n < 0 then
      .error (Text.concat ["invalid value: integer ", ticked (integerText n), ", expected usize"])
    else mismatch "usize" (.integer n)
  | value => mismatch "usize" value

/-- The names of the policies for methods that return nothing. -/
def voidReturns : List (Text × ChangeReview.Documentation.VoidReturn) :=
  [("require", .require), ("exempt", .exempt)]

/-- The policy with a name. -/
def voidReturnNamed (name : Text) : Decoded ChangeReview.Documentation.VoidReturn :=
  match voidReturns.lookup name with
  | some policy => .ok policy
  | none =>
    .error (Text.concat
      ["unknown variant ", ticked name, ", ", oneOf (voidReturns.map Prod.fst)])

/-- What a value is called where an empty table was expected. -/
def kindName : TomlValue → Text
  | .string _ => "string"
  | .integer _ => "integer"
  | .float _ => "float"
  | .boolean _ => "boolean"
  | .moment => "datetime"
  | .array _ => "array"
  | .table _ => "table"

/-- Complains if a value is anything but empty. -/
def nothing : TomlValue → Decoded Unit
  | .array items => if items.isEmpty then .ok () else .error "expected empty array"
  | .table entries => if entries.isEmpty then .ok () else .error "expected empty table"
  | value => .error (Text.concat ["expected table, found ", kindName value])

/-- A policy for methods that return nothing: its name, or a table whose only key is its name. -/
def voidReturn : TomlValue → Decoded ChangeReview.Documentation.VoidReturn
  | .string name => voidReturnNamed name
  | .table [] => .error "wanted exactly 1 element, found 0 elements"
  | .table [(name, value)] => do
    let policy ← voidReturnNamed name
    nothing value
    .ok policy
  | .table _ => .error "wanted exactly 1 element, more than 1 element"
  | _ => .error "wanted string or table"

/-- A setting of a section: its name, and what its value does to the section. -/
structure Setting (σ : Type) where
  name : Text
  apply : TomlValue → σ → Decoded σ

/-- A setting whose value is put into the section. -/
def setting {σ α : Type} (name : Text) (read : TomlValue → Decoded α) (put : α → σ → σ) :
    Setting σ :=
  ⟨name, fun value part => (read value).map (put · part)⟩

/-- Applies one entry of a section's table. -/
def applyEntry {σ : Type} (settings : List (Setting σ)) (part : σ) (entry : Text × TomlValue) :
    Decoded σ :=
  match settings.find? (·.name == entry.1) with
  | some setting => setting.apply entry.2 part
  | none =>
    .error (Text.concat
      ["unknown field ", ticked entry.1, ", ", oneOf (settings.map (·.name))])

/-- The key under which a date or time counts as a table. -/
def momentKey : Text := "$__toml_private_datetime"

/-- A section with the settings of a value, where `default` gives those that are not set. -/
def decodeSection {σ : Type} (name : Text) (settings : List (Setting σ)) (default : σ) :
    TomlValue → Decoded σ
  | .table entries =>
    (entries.mergeSort fun a b => !(b.1 < a.1)).foldlM (applyEntry settings) default
  | .array items =>
    (settings.zip items).foldlM (fun part (setting, item) => setting.apply item part) default
  | .moment => applyEntry settings default (momentKey, .moment)
  | value => mismatch (Text.concat ["struct ", name]) value

/-- The settings about the choice of files. -/
def scannerSettings : List (Setting Scanner) :=
  [setting "extensions" texts fun v s => { s with extensions := v },
    setting "style_extensions" texts fun v s => { s with styleExtensions := v },
    setting "exclude" texts fun v s => { s with exclude := v },
    setting "exclude_suffixes" texts fun v s => { s with excludeSuffixes := v }]

/-- The settings about declarations. -/
def documentationSettings : List (Setting Documentation) :=
  [setting "near_window" count fun v s => { s with nearWindow := v },
    setting "void_return" voidReturn fun v s => { s with voidReturn := v },
    setting "require_access_modifier" switch fun v s => { s with requireAccessModifier := v },
    setting "require_return_type" switch fun v s => { s with requireReturnType := v }]

/-- The settings about the detectors. -/
def detectorsSettings : List (Setting Detectors) :=
  [setting "debug_statements" switch fun v s => { s with debugStatements := v },
    setting "breakpoints" switch fun v s => { s with breakpoints := v },
    setting "todo" switch fun v s => { s with todo := v },
    setting "fixme" switch fun v s => { s with fixme := v },
    setting "styles" switch fun v s => { s with styles := v }]

/-- The settings about reviews. -/
def reviewSettings : List (Setting Review) :=
  [setting "max_comments" count fun v s => { s with maxComments := v }]

/-- The sections of a configuration. -/
def sections : List (Setting Config) :=
  [setting "scanner" (decodeSection "ScannerConfig" scannerSettings {})
      fun v c => { c with scanner := v },
    setting "documentation" (decodeSection "DocumentationConfig" documentationSettings {})
      fun v c => { c with documentation := v },
    setting "detectors" (decodeSection "DetectorsConfig" detectorsSettings {})
      fun v c => { c with detectors := v },
    setting "review" (decodeSection "ReviewConfig" reviewSettings {})
      fun v c => { c with review := v }]

/-- The configuration in the text of a file. -/
def decode (content : Text) : Except DecodeFault Config :=
  match Toml.document? content with
  | none => .error .malformed
  | some entries =>
    (decodeSection "Config" sections {} (.table entries)).mapError .unexpected

end ChangeReview.Config
