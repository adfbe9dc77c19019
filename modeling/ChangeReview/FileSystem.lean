import ChangeReview.Config.Load
import ChangeReview.Text.Utf8
import ChangeReview.Tree

/-!
# Files and directories

A file system is a tree of files and symbolic links with a current directory. A path is followed
part by part: two dots lead to the directory above, and a symbolic link to where it points.

## Main definitions

- `FileSystem`: the tree and the current directory.
- `FileSystem.locate`: where a path leads.
- `FileSystem.read`, `FileSystem.write`, `FileSystem.walk`, `FileSystem.canonical?`: what is done
  with paths.
-/

namespace ChangeReview

namespace FileFault

/-- There is nothing at a path. -/
def absent : FileFault := ⟨.notFound, "No such file or directory (os error 2)"⟩

/-- A file stands where a directory is needed. -/
def noDirectory : FileFault := ⟨.other, "Not a directory (os error 20)"⟩

/-- A directory stands where a file is needed. -/
def directory : FileFault := ⟨.other, "Is a directory (os error 21)"⟩

/-- A path leads through too many symbolic links. -/
def linkLoop : FileFault := ⟨.other, "Too many levels of symbolic links (os error 40)"⟩

/-- A file holds no text. -/
def noText : FileFault := ⟨.invalidData, "stream did not contain valid UTF-8"⟩

end FileFault

/-- A file or a symbolic link. -/
inductive FileNode where
  | file (content : Bytes) (executable : Bool)
  | link (target : Path)
  deriving DecidableEq, Repr

/-- A tree of files with a current directory. -/
structure FileSystem where
  root : Tree FileNode
  /-- The names that lead from the root to the current directory. -/
  current : List Text

namespace FileSystem

/-- How many symbolic links a path may lead through. -/
def maxLinks : Nat := 40

/-- What is wrong if a file is to be created where the parts are still to be followed. -/
def creationFault (parts : List Text) : FileFault :=
  if !parts.isEmpty && parts.all (·.isEmpty) then .directory else .absent

/-- The names of the place to which the parts lead from a directory. If `create` holds, the place
itself may be missing from its directory. -/
def follow (root : Tree FileNode) (create : Bool) (links : Nat) (location : List Text)
    (parts : List Text) : Except FileFault (List Text) :=
  match parts with
  | [] => .ok location
  | part :: parts =>
    match root.find? location with
    | some (.directory entries) =>
      if Path.isSkipped part then follow root create links location parts
      else if part == ['.', '.'] then follow root create links location.dropLast parts
      else
        match entries.lookup part with
        | none =>
          if !create then .error .absent
          else if parts.isEmpty then .ok (location ++ [part])
          else .error (creationFault parts)
        | some (.leaf (.link target)) =>
          match links with
          | 0 => .error .linkLoop
          | links + 1 =>
            let start := if Path.isAbsolute target then [] else location
            follow root create links start (Text.splitOnChar '/' target ++ parts)
        | some _ => follow root create links (location ++ [part]) parts
    | _ => .error .noDirectory
termination_by (links, parts.length)

/-- The names of the place to which a path leads. -/
def placeOf (files : FileSystem) (create : Bool) (path : Path) : Except FileFault (List Text) :=
  if path.isEmpty then .error .absent
  else
    let start := if Path.isAbsolute path then [] else files.current
    follow files.root create maxLinks start (Text.splitOnChar '/' path)

/-- What a path leads to. -/
def locate (files : FileSystem) (path : Path) : Except FileFault (Tree FileNode) := do
  let names ← files.placeOf false path
  match files.root.find? names with
  | some tree => .ok tree
  | none => .error .absent

/-- Whether a path leads anywhere. -/
def present (files : FileSystem) (path : Path) : Bool := (files.locate path).isOk

/-- Whether a path leads to a directory. -/
def isDirectory (files : FileSystem) (path : Path) : Bool :=
  (files.locate path).toOption.any (·.isDirectory)

/-- The text of a file. -/
def read (files : FileSystem) (path : Path) : Except FileFault Text := do
  match ← files.locate path with
  | .leaf (.file content _) =>
    match Text.ofUtf8? content with
    | some text => .ok text
    | none => .error .noText
  | .leaf (.link _) => .error .linkLoop
  | .directory _ => .error .directory

/-- The tree with a content written to the file that the names lead to. A file that is there stays
executable. -/
def writeAt (names : List Text) (content : Bytes) (root : Tree FileNode) : Tree FileNode :=
  let executable :=
    match root.leaf? names with
    | some (.file _ executable) => executable
    | _ => false
  Tree.insert (.leaf (.file content executable)) names root

/-- The files with a text written to one of them. -/
def write (files : FileSystem) (path : Path) (text : Text) : Except FileFault FileSystem := do
  let names ← files.placeOf true path
  match files.root.find? names with
  | some (.directory _) => .error .directory
  | _ => .ok { files with root := writeAt names text.utf8 files.root }

/-- The path from the root of a place. -/
def absolute (names : List Text) : Path := '/' :: Tree.pathOf names

/-- The path from the root that leads through no symbolic links. -/
def canonical? (files : FileSystem) (path : Path) : Option Path :=
  (files.placeOf false path).toOption.map absolute

/-- Whether a leaf is a file. -/
def isFile : FileNode → Bool
  | .file .. => true
  | .link _ => false

/-- The files at and below a directory, as seen from it. Symbolic links below it are passed over. -/
def walk (files : FileSystem) (path : Path) : List Path :=
  match files.locate path with
  | .error _ => []
  | .ok tree =>
    (tree.leaves.filter (isFile ·.2)).map fun (names, _) => names.foldl Path.join path

/-- The path of the current directory. -/
def currentPath (files : FileSystem) : Path := absolute files.current

/-- What loading a configuration asks for. -/
def access (files : FileSystem) : FileAccess :=
  { read := files.read
    present := files.present
    currentDirectory := some files.currentPath }

end FileSystem

end ChangeReview
