import ChangeReview.Edit.Script
import ChangeReview.Repository

/-!
# Renamed files

A file that is deleted and one that is created are the two ends of a rename if their contents are
alike enough. Equal contents come first, then files of the same name that are much alike, and then
the most similar pairs.

## Main definitions

- `Rename.similarity`: how much of a content another one keeps.
- `Rename.detect`: the pairs of created and deleted files.
-/

namespace ChangeReview.Rename

/-- The similarity of two equal contents. -/
def maxScore : Nat := 60000

/-- The least similarity of two ends of a rename. -/
def minScore : Nat := 30000

/-- The least similarity of two ends that are preferred for their name. -/
def minNameScore : Nat := 45000

/-- How many bytes of a line are compared at once. -/
def chunkSize : Nat := 64

/-- Drops the carriage returns before line feeds. -/
def dropReturns : Bytes → Bytes
  | [] => []
  | b :: rest =>
    if b == 13 && rest.head? == some FileLine.lineFeed then dropReturns rest
    else b :: dropReturns rest

/-- The pieces of a content that end with a line or after so many bytes. What is left at the end
does not count. `pending` holds the bytes of the piece that is being read, the latest first. -/
def chunksAfter (pending : Bytes) : Bytes → List Bytes
  | [] => []
  | b :: rest =>
    if pending.length + 1 < chunkSize && b != FileLine.lineFeed then
      chunksAfter (b :: pending) rest
    else (b :: pending) :: chunksAfter [] rest

/-- The pieces of a content. -/
def chunks (isText : Bool) (content : Bytes) : List Bytes :=
  chunksAfter [] (if isText then dropReturns content else content)

/-- The number of bytes in pieces of the first list that are also in the second one, each as often
as it is in both. -/
def sharedBytes : List Bytes → List Bytes → Nat
  | [], _ => 0
  | chunk :: old, new =>
    if new.contains chunk then chunk.length + sharedBytes old (new.erase chunk)
    else sharedBytes old new

/-- How much of a content another one keeps, if their sizes are close enough for a similarity. -/
def similarity (isText : Bytes → Bool) (least : Nat) (old new : Bytes) : Nat :=
  let larger := max old.length new.length
  let smaller := min old.length new.length
  if larger * (maxScore - least) < (larger - smaller) * maxScore || new.isEmpty then 0
  else
    sharedBytes (chunks (isText old) old) (chunks (isText new) new) * maxScore / larger

/-- A file that is deleted or created. -/
structure End where
  names : List Text
  object : FileObject
  deriving DecidableEq, Repr

/-- A created file with the deleted file that it continues. -/
structure Pair where
  old : End
  new : End
  deriving DecidableEq, Repr

/-- Whether two files have the same last name. -/
def sameName (a b : End) : Bool := a.names.getLast? == b.names.getLast?

/-- Whether two objects are the same up to being executable. -/
def sameObject : FileObject → FileObject → Bool
  | .blob a _, .blob b _ => a == b
  | .link a, .link b => a == b
  | .submodule a, .submodule b => a == b
  | _, _ => false

/-- The similarity of two files. Only the contents of files count. -/
def score (isText : Bytes → Bool) (least : Nat) (old new : End) : Nat :=
  match old.object, new.object with
  | .blob a _, .blob b _ => similarity isText least a b
  | _, _ => 0

/-- The deleted files that are no end of a rename. -/
def unusedOld (pairs : List Pair) (deleted : List End) : List End :=
  deleted.filter fun file => !pairs.any (·.old == file)

/-- The created files that are no end of a rename. -/
def unusedNew (pairs : List Pair) (created : List End) : List End :=
  created.filter fun file => !pairs.any (·.new == file)

/-- The pairs with a created file and a deleted one of the same content, if there is one. A deleted
file of the same name is preferred. -/
def addExact (deleted : List End) (pairs : List Pair) (new : End) : List Pair :=
  let candidates := (unusedOld pairs deleted).filter (sameObject ·.object new.object)
  match candidates.find? (sameName · new) <|> candidates.head? with
  | some old => pairs ++ [⟨old, new⟩]
  | none => pairs

/-- The pairs with a deleted file and a created one of the same name, if no other files have it and
they are much alike. -/
def addNamed (isText : Bytes → Bool) (deleted created : List End) (pairs : List Pair) (old : End) :
    List Pair :=
  match deleted.filter (sameName · old), created.filter (sameName · old) with
  | [_], [new] =>
    if minNameScore ≤ score isText minNameScore old new then pairs ++ [⟨old, new⟩] else pairs
  | _, _ => pairs

/-- The pairs with a pair of similar files, if both are still without a partner. -/
def addSimilar (pairs : List Pair) (pair : Pair) : List Pair :=
  if pairs.any fun other => other.old == pair.old || other.new == pair.new then pairs
  else pairs ++ [pair]

/-- All pairs of a deleted and a created file that are alike, the most similar ones first, and among
these the ones of the same name first. -/
def similarPairs (isText : Bytes → Bool) (deleted created : List End) : List Pair :=
  let scored := created.flatMap fun new =>
    deleted.filterMap fun old =>
      let score := score isText minScore old new
      if minScore ≤ score then some (score, sameName old new, Pair.mk old new) else none
  let sorted := scored.mergeSort fun a b =>
    b.1 < a.1 || (a.1 == b.1 && (a.2.1 || !b.2.1))
  sorted.map (·.2.2)

/-- The pairs of deleted and created files. -/
def detect (isText : Bytes → Bool) (deleted created : List End) : List Pair :=
  let exact := created.foldl (addExact deleted) []
  let oldLeft := unusedOld exact deleted
  let named := oldLeft.foldl (addNamed isText oldLeft (unusedNew exact created)) exact
  (similarPairs isText (unusedOld named deleted) (unusedNew named created)).foldl addSimilar named

end ChangeReview.Rename
