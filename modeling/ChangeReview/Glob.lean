import ChangeReview.Text

/-!
# Glob patterns

A pattern is matched against the bytes of a path in UTF-8, and its wildcards also match slashes.
Between braces stand alternatives; an empty alternative does not count. A backslash takes the next
character literally.

## Main definitions

- `Glob.Token`: the parts of a pattern.
- `Glob.Atom`, `Glob.expand`: patterns without alternatives.
- `Glob.isMatch`: whether a pattern matches a path.
-/

namespace ChangeReview.Glob

/-- A part of a pattern. -/
inductive Token where
  /-- A character that stands for itself. -/
  | literal (c : Char)
  /-- A question mark: one byte. -/
  | any
  /-- A star: any bytes. -/
  | star
  /-- Two stars at the start: nothing, or directories down to a slash. -/
  | leadingDirs
  /-- Two stars at the end: everything below a directory. -/
  | trailingDirs
  /-- Two stars between slashes: one slash, or directories between two. -/
  | innerDirs
  /-- Characters in brackets. -/
  | charClass (negated : Bool) (ranges : List (Char × Char))
  /-- Alternatives in braces. -/
  | alternates (branches : List (List Token))
  deriving Repr

/-- A part of a pattern without alternatives. -/
inductive Atom where
  /-- One byte that stands for itself. -/
  | byte (b : UInt8)
  /-- One byte in, or else outside, one of the ranges. -/
  | byteClass (negated : Bool) (ranges : List (UInt8 × UInt8))
  /-- One byte. -/
  | anyByte
  /-- Any bytes. -/
  | run
  deriving DecidableEq, Repr

/-- The atoms of a character: its bytes. -/
def charAtoms (c : Char) : List Atom := (Text.utf8 [c]).map .byte

/-- A slash. -/
def slash : List Atom := charAtoms '/'

/-- The byte ranges of a range of characters. The bytes of each end count one by one, and the range
goes from the last byte of one end to the first byte of the other. -/
def byteRanges (range : Char × Char) : List (UInt8 × UInt8) :=
  if range.1 = range.2 then (Text.utf8 [range.1]).map fun b => (b, b)
  else
    match (Text.utf8 [range.1]).reverse, Text.utf8 [range.2] with
    | last :: before, first :: after =>
      before.map (fun b => (b, b)) ++ (last, first) :: after.map fun b => (b, b)
    | _, _ => []

mutual

/-- The alternative-free patterns that a token stands for. -/
def expandToken : Token → List (List Atom)
  | .literal c => [charAtoms c]
  | .any => [[.anyByte]]
  | .star => [[.run]]
  | .leadingDirs => [[], slash, .run :: slash]
  | .trailingDirs => [slash ++ [.run]]
  | .innerDirs => [slash, slash ++ .run :: slash]
  | .charClass negated ranges => [[.byteClass negated (ranges.flatMap byteRanges)]]
  | .alternates branches =>
    match expandBranches branches with
    | [] => [[]]
    | expanded => expanded

/-- The alternative-free patterns that a sequence of tokens stands for. -/
def expandTokens : List Token → List (List Atom)
  | [] => [[]]
  | token :: tokens =>
    (expandToken token).flatMap fun front => (expandTokens tokens).map (front ++ ·)

/-- The alternative-free patterns of all alternatives that are not empty. -/
def expandBranches : List (List Token) → List (List Atom)
  | [] => []
  | branch :: branches =>
    if writesNothing branch then expandBranches branches
    else expandTokens branch ++ expandBranches branches

/-- Whether a sequence of tokens has nothing to match. -/
def writesNothing : List Token → Bool
  | [] => true
  | token :: tokens => tokenWritesNothing token && writesNothing tokens

/-- Whether a token has nothing to match: all its alternatives are empty. -/
def tokenWritesNothing : Token → Bool
  | .alternates branches => branchesWriteNothing branches
  | _ => false

/-- Whether all alternatives are empty. -/
def branchesWriteNothing : List (List Token) → Bool
  | [] => true
  | branch :: branches => writesNothing branch && branchesWriteNothing branches

end

/-- The alternative-free patterns of a whole pattern. Two stars alone match anything. -/
def expand : List Token → List (List Atom)
  | [.leadingDirs] => [[.run]]
  | tokens => expandTokens tokens

/-- Whether an atom other than a run matches the byte. -/
def Atom.accepts (b : UInt8) : Atom → Bool
  | byte own => own == b
  | byteClass negated ranges => ranges.any (fun (lo, hi) => lo ≤ b && b ≤ hi) != negated
  | anyByte => true
  | run => false

/-- Whether `test` holds of some suffix. -/
def anySuffix (test : List UInt8 → Bool) : List UInt8 → Bool
  | [] => test []
  | b :: rest => test (b :: rest) || anySuffix test rest

/-- Whether the atoms match the bytes from the first to the last. -/
def atomsMatch : List Atom → List UInt8 → Bool
  | [], bytes => bytes.isEmpty
  | .run :: atoms, bytes => anySuffix (atomsMatch atoms) bytes
  | _ :: _, [] => false
  | atom :: atoms, b :: rest => atom.accepts b && atomsMatch atoms rest

/-- Whether the pattern matches the path. -/
def isMatch (pattern : List Token) (path : Text) : Bool :=
  (expand pattern).any fun atoms => atomsMatch atoms path.utf8

end ChangeReview.Glob
