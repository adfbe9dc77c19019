import ChangeReview.Toml

/-!
# Growing TOML tables

Headers and dotted keys build nested tables step by step. A table may be opened by one header only,
and neither inline tables nor arrays grow after they are written.

## Main definitions

- `Toml.Node`: a table or value that is being built.
- `Toml.Node.assign?`: the effect of a key and its value.
- `Toml.Node.openTable?`, `Toml.Node.openElement?`: the effect of a header.
-/

namespace ChangeReview.Toml

/-- How a table came into being. -/
inductive Origin where
  /-- As a part of a header's path. -/
  | implied
  /-- As a part of a dotted key. -/
  | dotted
  /-- By a header. -/
  | header
  deriving DecidableEq, Repr

/-- A table or value that is being built. -/
inductive Node where
  /-- A value that does not grow. -/
  | value (value : TomlValue)
  /-- A table. -/
  | table (origin : Origin) (entries : List (Text × Node))
  /-- An array of tables that headers build, the latest first. -/
  | tables (elements : List (List (Text × Node)))

namespace Node

/-- The entries of a table that is being built. -/
abbrev Entries := List (Text × Node)

/-- The entries with a new value for a key, which is added if it is not there. -/
def put (key : Text) (node : Node) : Entries → Entries
  | [] => [(key, node)]
  | (other, old) :: entries =>
    if other = key then (key, node) :: entries else (other, old) :: put key node entries

/-- A change of a table. -/
abbrev Change := Origin → Entries → Option (Origin × Entries)

/-- The change of a table that a change of the table at the end of a path makes. Tables on the path
that do not exist are created, and an array of tables stands for its latest element. A dotted key
does not reach into a table that a header opened. -/
def atPath (dotted : Bool) (change : Change) : List Text → Change
  | [], origin, entries => change origin entries
  | key :: path, origin, entries =>
    match entries.lookup key with
    | none => do
      let (inner, grown) ← atPath dotted change path (if dotted then .dotted else .implied) []
      some (origin, put key (.table inner grown) entries)
    | some (.table inner old) =>
      if dotted && inner = .header then none
      else do
        let (inner, grown) ← atPath dotted change path inner old
        some (origin, put key (.table inner grown) entries)
    | some (.tables (old :: before)) => do
      let (_, grown) ← atPath dotted change path .header old
      some (origin, put key (.tables (grown :: before)) entries)
    | some _ => none

/-- Adds a key with its value. A table that a dotted key leads to must be made by dotted keys. -/
def assignHere (afterDot : Bool) (key : Text) (value : TomlValue) : Change :=
  fun origin entries =>
    if (origin = .dotted) = (afterDot = true) && (entries.lookup key).isNone then
      some (origin, put key (.value value) entries)
    else none

/-- The effect of a key, all but the last part of which is `path`, and its value. -/
def assign? (path : List Text) (key : Text) (value : TomlValue) : Change :=
  atPath true (assignHere (!path.isEmpty) key value) path

/-- Opens a table, which may so far be implied by the headers of others. -/
def openHere (key : Text) : Change := fun origin entries =>
  match entries.lookup key with
  | none => some (origin, put key (.table .header []) entries)
  | some (.table .implied old) => some (origin, put key (.table .header old) entries)
  | some _ => none

/-- The effect of a header with the given path and last part. -/
def openTable? (path : List Text) (key : Text) : Change := atPath false (openHere key) path

/-- Adds an element to an array of tables, which may be new. -/
def addHere (key : Text) : Change := fun origin entries =>
  match entries.lookup key with
  | none => some (origin, put key (.tables [[]]) entries)
  | some (.tables elements) => some (origin, put key (.tables ([] :: elements)) entries)
  | some _ => none

/-- The effect of a header in double brackets with the given path and last part. -/
def openElement? (path : List Text) (key : Text) : Change := atPath false (addHere key) path

mutual

/-- The finished value. -/
def toValue : Node → TomlValue
  | .value finished => finished
  | .table _ entries => .table (entriesToValues entries)
  | .tables elements => .array (elementsToValues elements).reverse

/-- The finished entries of a table. -/
def entriesToValues : List (Text × Node) → List (Text × TomlValue)
  | [] => []
  | (key, node) :: entries => (key, node.toValue) :: entriesToValues entries

/-- The finished elements of an array of tables. -/
def elementsToValues : List (List (Text × Node)) → List TomlValue
  | [] => []
  | entries :: elements => .table (entriesToValues entries) :: elementsToValues elements

end

end Node

end ChangeReview.Toml
