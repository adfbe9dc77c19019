import ChangeReview.Text

/-!
# Blanks

The Unicode property `White_Space`, and trimming by it.
-/

namespace ChangeReview

/-- The characters of the Unicode property `White_Space`. -/
def isBlank (c : Char) : Bool :=
  if c.toNat < 0x80 then c == ' ' || (9 ≤ c.toNat && c.toNat ≤ 13)
  else inRanges blankRanges c.toNat
where
  /-- The ranges of `White_Space` outside ASCII. -/
  blankRanges : List (Nat × Nat) :=
  [(0x85, 0x85), (0xA0, 0xA0), (0x1680, 0x1680), (0x2000, 0x200A), (0x2028, 0x2029),
   (0x202F, 0x202F), (0x205F, 0x205F), (0x3000, 0x3000)]

namespace Text

/-- Drops blanks at the start. -/
def trimStart (text : Text) : Text := trimStartBy isBlank text

/-- Drops blanks at the end. -/
def trimEnd (text : Text) : Text := trimEndBy isBlank text

/-- Drops blanks at both ends. -/
def trim (text : Text) : Text := trimBy isBlank text

end Text

end ChangeReview
