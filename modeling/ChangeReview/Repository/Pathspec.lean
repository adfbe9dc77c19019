import ChangeReview.Glob
import ChangeReview.Path

/-!
# Path patterns of a repository

A path that is given to select files of a repository is a pattern. It selects the file that it
spells, the files below the directory that it spells, and the files that its wildcards match. A
colon at its start introduces options.

## Main definitions

- `Pathspec`: a pattern with its options.
- `Pathspec.parse?`: the pattern that a path spells.
- `Pathspec.selects`: whether a file is selected.
-/

namespace ChangeReview

/-- A pattern that selects files of a repository. -/
structure Pathspec where
  pattern : Text
  /-- Whether the other files are selected. -/
  excludes : Bool := false
  /-- Whether the case of ASCII letters does not matter. -/
  ignoresCase : Bool := false
  /-- Whether there are no wildcards. -/
  isLiteral : Bool := false
  deriving DecidableEq, Repr

namespace Pathspec

/-- The bytes with a meaning of their own in a pattern. -/
def isWild (b : UInt8) : Bool := b == 42 || b == 63 || b == 91 || b == 92

/-- The byte ranges that a name of characters stands for. -/
def namedRanges? (name : Text) : Option (List (UInt8 × UInt8)) :=
  [("alnum".toList, [(48, 57), (65, 90), (97, 122)]), ("alpha".toList, [(65, 90), (97, 122)]),
    ("blank".toList, [(9, 9), (32, 32)]), ("cntrl".toList, [(0, 31), (127, 127)]),
    ("digit".toList, [(48, 57)]), ("graph".toList, [(33, 126)]), ("lower".toList, [(97, 122)]),
    ("print".toList, [(32, 126)]),
    ("punct".toList, [(33, 47), (58, 64), (91, 96), (123, 126)]),
    ("space".toList, [(9, 13), (32, 32)]), ("upper".toList, [(65, 90)]),
    ("xdigit".toList, [(48, 57), (65, 70), (97, 102)])].lookup name

/-- What is read of a class in brackets. -/
structure ClassState where
  ranges : List (UInt8 × UInt8) := []
  /-- The byte that may begin a range. -/
  last : Option UInt8 := none
  deriving Repr

/-- The class with one more byte, or with a range to it. -/
def ClassState.add (state : ClassState) (isRange : Bool) (b : UInt8) : ClassState :=
  match isRange, state.last with
  | true, some first => { ranges := (first, b) :: state.ranges, last := none }
  | _, _ => { ranges := (b, b) :: state.ranges, last := some b }

/-- The name of a named class, and the bytes after it. A colon and the next closing bracket end the
name. -/
def takeName? (bytes : List UInt8) : Option (Text × List UInt8) :=
  let name := bytes.takeWhile (· != 93)
  if name.length < bytes.length && name.getLast? == some 58 then
    some (name.dropLast.map fun b => Char.ofNat b.toNat, bytes.drop (name.length + 1))
  else none

/-- The ranges of a class up to its closing bracket, and the bytes after it. A bracket right after
the opening is a member of the class. -/
def classRanges? (fuel : Nat) (isFirst : Bool) (state : ClassState) (bytes : List UInt8) :
    Option (List (UInt8 × UInt8) × List UInt8) :=
  match fuel with
  | 0 => none
  | fuel + 1 =>
    match bytes with
    | [] => none
    | 93 :: rest =>
      if isFirst then classRanges? fuel false (state.add false 93) rest
      else some (state.ranges, rest)
    | 92 :: b :: rest => classRanges? fuel false (state.add false b) rest
    | [92] => none
    | 91 :: 58 :: rest =>
      match takeName? rest with
      | none => classRanges? fuel false (state.add false 91) (58 :: rest)
      | some (name, rest) =>
        match namedRanges? name with
        | none => none
        | some ranges =>
          classRanges? fuel false { ranges := ranges ++ state.ranges, last := none } rest
    | 45 :: b :: rest =>
      if state.last.isNone || b == 93 then
        classRanges? fuel false (state.add false 45) (b :: rest)
      else
        match b, rest with
        | 92, c :: rest => classRanges? fuel false (state.add true c) rest
        | 92, [] => none
        | b, rest => classRanges? fuel false (state.add true b) rest
    | b :: rest => classRanges? fuel false (state.add false b) rest

/-- The class after an opening bracket. -/
def class? (bytes : List UInt8) : Option (Glob.Atom × List UInt8) :=
  let (negated, bytes) :=
    match bytes with
    | 33 :: rest => (true, rest)
    | 94 :: rest => (true, rest)
    | _ => (false, bytes)
  (classRanges? (bytes.length + 1) true {} bytes).map fun (ranges, rest) =>
    (.byteClass negated ranges, rest)

/-- The atoms that the bytes of a pattern spell, unless a class is not closed or a backslash stands
last. -/
def atoms? : Nat → List UInt8 → Option (List Glob.Atom)
  | 0, _ => none
  | _ + 1, [] => some []
  | fuel + 1, 42 :: rest => (atoms? fuel rest).map (.run :: ·)
  | fuel + 1, 63 :: rest => (atoms? fuel rest).map (.anyByte :: ·)
  | fuel + 1, 91 :: rest => do
    let (atom, rest) ← class? rest
    (atoms? fuel rest).map (atom :: ·)
  | fuel + 1, 92 :: b :: rest => (atoms? fuel rest).map (.byte b :: ·)
  | _ + 1, [92] => none
  | fuel + 1, b :: rest => (atoms? fuel rest).map (.byte b :: ·)

/-- Whether the wildcards of a pattern match a path. -/
def wildcardsMatch (pattern path : List UInt8) : Bool :=
  match atoms? (pattern.length + 1) pattern with
  | none => false
  | some atoms => Glob.atomsMatch atoms path

/-- Whether a path is the one that is spelled, or lies below it. -/
def spells (pattern path : Text) : Bool :=
  pattern.isPrefixOf path &&
    (pattern.length == path.length || pattern.getLast? == some '/' || pattern.isEmpty ||
      headIs '/' (path.drop pattern.length))

/-- Whether a pattern without options selects a path. -/
def accepts (isLiteral : Bool) (pattern path : Text) : Bool :=
  spells pattern path ||
    (!isLiteral && pattern.utf8.any isWild && wildcardsMatch pattern.utf8 path.utf8)

/-- Whether a file is selected. -/
def selects (spec : Pathspec) (path : Path) : Bool :=
  let fold (text : Text) : Text := if spec.ignoresCase then text.map Char.toLower else text
  accepts spec.isLiteral (fold spec.pattern) (fold path) != spec.excludes

/-- The marks that may begin options. -/
def marks : Text := "!\x22#%&',-/:;<=>@_\x60~"

/-- The pattern after options that are written as marks. -/
def parseMarks? (spec : Pathspec) : Text → Option Pathspec
  | [] => some { spec with pattern := [] }
  | ':' :: rest => some { spec with pattern := rest }
  | '^' :: rest => parseMarks? { spec with excludes := true } rest
  | '!' :: rest => parseMarks? { spec with excludes := true } rest
  | '/' :: rest => parseMarks? spec rest
  | c :: rest => if marks.any (· == c) then none else some { spec with pattern := c :: rest }

/-- The pattern with an option that is written as a word. -/
def withWord? (spec : Pathspec) (word : Text) : Option Pathspec :=
  if word.isEmpty || word == "top".toList then some spec
  else if word == "exclude".toList then some { spec with excludes := true }
  else if word == "icase".toList then some { spec with ignoresCase := true }
  else if word == "literal".toList then some { spec with isLiteral := true }
  else none

/-- The pattern that a path spells, unless it has unknown options. -/
def parse? : Path → Option Pathspec
  | ':' :: '(' :: rest =>
    match Text.splitFirst ')' rest with
    | none => none
    | some (words, pattern) =>
      (Text.splitOnChar ',' words).foldlM withWord? { pattern }
  | ':' :: rest => parseMarks? { pattern := [] } rest
  | path => some { pattern := path }

end Pathspec

end ChangeReview
