import ChangeReview.Text

/-!
# TOML values

The values that a TOML document holds.

## Main definitions

- `TomlValue`: a value of a document.
- `TomlFloat`: a floating-point number as it is written.
-/

namespace ChangeReview

/-- A floating-point number as it is written. -/
inductive TomlFloat where
  /-- `digits * 10 ^ power`, perhaps negated. -/
  | finite (negative : Bool) (digits : Nat) (power : Int)
  | infinite (negative : Bool)
  | notANumber
  deriving DecidableEq, Repr

/-- A value of a document. -/
inductive TomlValue where
  | string (text : Text)
  | integer (n : Int)
  | float (value : TomlFloat)
  | boolean (value : Bool)
  /-- A date, a time of day, or both. -/
  | moment
  | array (items : List TomlValue)
  | table (entries : List (Text × TomlValue))
  deriving Repr

end ChangeReview
