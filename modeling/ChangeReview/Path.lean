import ChangeReview.Text

/-!
# Paths

A path is a text whose components stand between slashes. Empty components and single dots do not
count, except for a dot at the very start. Two spellings with the same components are the same path.

## Main definitions

- `Path.components`: the components of a path.
- `Path.same`, `Path.before`: equality and order by components.
- `Path.fileName?`, `Path.extension?`: the parts of the last component.
- `Path.join`, `Path.strip?`, `Path.isUnder`: a path and a base.
-/

namespace ChangeReview

/-- A slash-separated path as it is spelled. -/
abbrev Path := Text

namespace Path

/-- A component of a path. -/
inductive Component where
  /-- The root directory. -/
  | root
  /-- A dot at the start of the path. -/
  | here
  /-- Two dots. -/
  | parent
  /-- A name. -/
  | name (text : Text)
  deriving DecidableEq, Repr

namespace Component

/-- The place of a component among different ones: names come last. -/
def rank : Component → Nat
  | root => 0
  | here => 1
  | parent => 2
  | name _ => 3

/-- The characters that decide between components of one rank. -/
def letters : Component → Text
  | name text => text
  | _ => []

/-- Strict order of components: by rank, then by the characters of a name. -/
def before (a b : Component) : Bool :=
  a.rank < b.rank || (a.rank == b.rank && a.letters < b.letters)

end Component

/-- Whether the path begins at the root directory. -/
def isAbsolute (path : Path) : Bool := headIs '/' path

/-- Whether the path begins with a dot as its first component. -/
def startsHere (path : Path) : Bool :=
  match path with
  | ['.'] => true
  | '.' :: '/' :: _ => true
  | _ => false

/-- The component at the start of a path that has no name: the root or a dot. -/
def anchor (path : Path) : List Component :=
  if isAbsolute path then [.root] else if startsHere path then [.here] else []

/-- The parts between slashes after the anchor. -/
def parts (path : Path) : List Text :=
  Text.splitOnChar '/' (path.drop (anchor path).length)

/-- Whether a part between slashes is no component. -/
def isSkipped (part : Text) : Bool := part == [] || part == ['.']

/-- The component that a part stands for. -/
def Component.ofPart? (part : Text) : Option Component :=
  if isSkipped part then none
  else if part == ['.', '.'] then some .parent
  else some (.name part)

/-- The components of a path. -/
def components (path : Path) : List Component :=
  anchor path ++ (parts path).filterMap Component.ofPart?

/-- Whether two spellings have the same components. -/
def same (a b : Path) : Bool := components a == components b

/-- Strict lexicographic order of lists of components. -/
def componentsBefore : List Component → List Component → Bool
  | _, [] => false
  | [], _ :: _ => true
  | a :: as, b :: bs => a.before b || (a == b && componentsBefore as bs)

/-- Strict order of paths: component by component. -/
def before (a b : Path) : Bool := componentsBefore (components a) (components b)

/-- The last component, if it is a name. -/
def fileName? (path : Path) : Option Text :=
  match (components path).getLast? with
  | some (.name text) => some text
  | _ => none

/-- The text after the last dot of a file name that does not only begin with it. -/
def extension? (path : Path) : Option Text := do
  let name ← fileName? path
  let reversed := name.reverse
  match reversed.dropWhile (· != '.') with
  | [] => none
  | [_] => none
  | _ => some (reversed.takeWhile (· != '.')).reverse

/-- The path `relative` seen from `base`. -/
def join (base relative : Path) : Path :=
  if isAbsolute relative then relative
  else if base == [] || base.getLast? == some '/' then base ++ relative
  else base ++ '/' :: relative

/-- Whether `path` lies at or below `base`. -/
def isUnder (base path : Path) : Bool := (components base).isPrefixOf (components path)

/-- The parts that remain when `count` components are taken away. -/
def dropParts : Nat → List Text → List Text
  | _, [] => []
  | count, part :: parts =>
    if isSkipped part then dropParts count parts
    else
      match count with
      | 0 => part :: parts
      | count + 1 => dropParts count parts

/-- The parts without those at the end that are no components. -/
def trimParts (parts : List Text) : List Text :=
  (parts.reverse.dropWhile isSkipped).reverse

/-- The spelling of `path` seen from `base`, if it lies at or below it. -/
def strip? (base path : Path) : Option Path :=
  if isUnder base path then
    match (components base).length with
    | 0 =>
      some (path.take (anchor path).length ++ Text.joinWith ['/'] (trimParts (parts path)))
    | count + 1 =>
      let count := count + 1 - (anchor path).length
      some (Text.joinWith ['/'] (trimParts (dropParts count (parts path))))
  else none

end Path

end ChangeReview
