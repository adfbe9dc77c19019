/-!
# Text

A text is a list of characters, so that every rule about it is a recursion on the list. String
literals stand for their characters.

## Main definitions

- `Text`: a sequence of Unicode characters.
- `Text.replace`, `Text.splitOnChar`, `Text.joinWith`: cutting and gluing.
- `Text.trimStartBy`, `Text.trimEndBy`, `Text.trimBy`: removal at the ends by a character class.
- `Text.utf8`: the bytes of a text in UTF-8.
-/

namespace ChangeReview

/-- A sequence of Unicode characters. -/
abbrev Text := List Char

instance : Coe String Text := ⟨String.toList⟩

namespace Text

/-- The pieces one after another. -/
def concat (pieces : List Text) : Text := pieces.flatten

/-- The lines, each followed by a line feed. -/
def unlines (lines : List Text) : Text := concat (lines.map (· ++ ['\n']))

/-- A natural number in decimal digits. -/
def ofNat (n : Nat) : Text := Nat.toDigits 10 n

/-- Drops the longest run at the start whose characters satisfy `drop`. -/
def trimStartBy (drop : Char → Bool) (text : Text) : Text := text.dropWhile drop

/-- Drops the longest run at the end whose characters satisfy `drop`. -/
def trimEndBy (drop : Char → Bool) : Text → Text
  | [] => []
  | c :: rest =>
    match trimEndBy drop rest with
    | [] => if drop c then [] else [c]
    | kept => c :: kept

/-- Drops the longest runs at both ends whose characters satisfy `drop`. -/
def trimBy (drop : Char → Bool) (text : Text) : Text := trimEndBy drop (trimStartBy drop text)

/-- Whether `part` stands somewhere in the text. -/
def contains (part : Text) : Text → Bool
  | [] => part.isEmpty
  | c :: rest => part.isPrefixOf (c :: rest) || contains part rest

/-- The text before and after the first `separator`. -/
def splitFirst (separator : Char) : Text → Option (Text × Text)
  | [] => none
  | c :: rest =>
    if c = separator then some ([], rest)
    else (splitFirst separator rest).map fun (before, after) => (c :: before, after)

/-- The parts between the separators: one more than there are separators. -/
def splitOnChar (separator : Char) : Text → List Text
  | [] => [[]]
  | c :: rest =>
    if c = separator then [] :: splitOnChar separator rest
    else
      match splitOnChar separator rest with
      | [] => [[c]]
      | part :: parts => (c :: part) :: parts

/-- The parts with `separator` between each two of them. -/
def joinWith (separator : Text) : List Text → Text
  | [] => []
  | [part] => part
  | part :: parts => part ++ separator ++ joinWith separator parts

/-- Every character `old` becomes `new`. -/
def replaceChar (old : Char) (new : Text) (text : Text) : Text :=
  text.flatMap fun c => if c = old then new else [c]

/-- Every occurrence of a non-empty `old`, found from the left without overlap, becomes `new`. -/
def replace (old new : Text) (text : Text) : Text := go 0 text
where
  /-- `skip` characters of the occurrence just replaced are still to be passed over. -/
  go (skip : Nat) : Text → Text
    | [] => []
    | c :: rest =>
      if 0 < skip then go (skip - 1) rest
      else if old.isPrefixOf (c :: rest) then new ++ go (old.length - 1) rest
      else c :: go 0 rest

/-- Equality up to the case of ASCII letters. -/
def eqIgnoreAsciiCase (a b : Text) : Bool := a.map Char.toLower == b.map Char.toLower

/-- The bytes of the text in UTF-8. -/
def utf8 (text : Text) : List UInt8 := text.flatMap String.utf8EncodeChar

end Text

/-- Whether the text begins with the character `c`. -/
def headIs (c : Char) (text : Text) : Bool := text.head? == some c

/-- Membership in a sorted list of inclusive code point ranges. -/
def inRanges (ranges : List (Nat × Nat)) (n : Nat) : Bool :=
  ranges.any fun (lo, hi) => lo ≤ n && n ≤ hi

end ChangeReview
