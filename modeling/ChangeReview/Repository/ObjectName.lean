import ChangeReview.Repository
import ChangeReview.Repository.Digest

/-!
# Names of objects

Everything that a repository holds has a name: the digest of its kind, its length and its content.
The content of a tree or commit holds the names of what it refers to, so that a name stands for a
whole history.

## Main definitions

- `FileObject.objectName`, `Snapshot.objectName`: the names of files and trees.
- `Repository.commitNames`: the names of the commits.
-/

namespace ChangeReview

/-- The name of the object of a kind with a content. -/
def Digest.ofObject (kind : Text) (content : Bytes) : Digest :=
  .ofBytes (Text.utf8 (Text.concat [kind, " ", Text.ofNat content.length]) ++ 0 :: content)

namespace FileObject

/-- The value of a hexadecimal digit. -/
def digitOf (c : Char) : UInt8 :=
  UInt8.ofNat (if c.isDigit then c.toNat - '0'.toNat else c.toLower.toNat - 'a'.toNat + 10)

/-- The bytes that pairs of hexadecimal digits stand for. -/
def bytesOfDigits : Text → Bytes
  | high :: low :: rest => (16 * digitOf high + digitOf low) :: bytesOfDigits rest
  | _ => []

/-- How the kind of an object is written in a tree. -/
def mode : FileObject → Text
  | blob _ executable => if executable then "100755" else "100644"
  | link _ => "120000"
  | submodule _ => "160000"

/-- The bytes of an object's name. -/
def objectName : FileObject → Bytes
  | blob content _ => (Digest.ofObject "blob" content).toBytes
  | link target => (Digest.ofObject "blob" target.utf8).toBytes
  | submodule commit => bytesOfDigits commit

end FileObject

namespace Snapshot

/-- How a directory is written in a tree. -/
def directoryMode : Text := "40000"

/-- An entry of a tree: its mode, its name and the name of what it holds. -/
def entryBytes (mode name : Text) (held : Bytes) : Bytes :=
  Text.utf8 (Text.concat [mode, " ", name]) ++ 0 :: held

mutual

/-- The bytes of the name of a file or tree. -/
def objectName : Tree FileObject → Bytes
  | .leaf object => object.objectName
  | .directory entries =>
    let ordered := (entryRecords entries).mergeSort fun a b => !decide (b.1 < a.1)
    (Digest.ofObject "tree" (ordered.flatMap (·.2))).toBytes

/-- The entries of a tree with the keys by which they are ordered: a directory's name counts as if
a slash followed it. -/
def entryRecords : List (Text × Tree FileObject) → List (Bytes × Bytes)
  | [] => []
  | (name, .leaf object) :: entries =>
    (Text.utf8 name, entryBytes object.mode name object.objectName) :: entryRecords entries
  | (name, .directory inner) :: entries =>
    (Text.utf8 (name ++ ['/']),
      entryBytes directoryMode name (objectName (.directory inner))) :: entryRecords entries

end

end Snapshot

namespace Repository

/-- A line of a commit. -/
def field (key value : Text) : Text := Text.concat [key, " ", value, "\n"]

/-- The name of a commit, given the names of the commits before it. -/
def commitName (repository : Repository) (names : List Digest) (commit : Commit) : Digest :=
  let tree := (Snapshot.objectName commit.tree).flatMap Digest.byteText
  let parents := (commit.parents.filterMap (names[·]?)).map fun name => field "parent" name.toText
  let fields :=
    field "tree" tree :: parents ++
      [field "author" repository.signature, field "committer" repository.signature]
  .ofObject "commit" (Text.utf8 (Text.concat fields ++ '\n' :: commit.message))

/-- The names of the commits. -/
def commitNames (repository : Repository) : List Digest :=
  repository.commits.foldl (fun names commit => names ++ [repository.commitName names commit]) []

/-- The first digits of a commit's name. -/
def shortName (repository : Repository) (id : CommitId) : Text :=
  ((repository.commitNames[id]?).map (·.abbreviated)).getD []

/-- The commit whose name begins with the digits. -/
def commitOfDigits? (repository : Repository) (digits : Text) : Option CommitId :=
  repository.commitNames.findIdx? fun name => digits.isPrefixOf name.toText

end Repository

end ChangeReview
