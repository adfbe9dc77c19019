import ChangeReview.FileSystem
import ChangeReview.Repository.Pathspec

/-!
# Rules about paths

Files in a repository's directories hold rules about the paths below them, one on each line. Some
files are not recorded, and some are never shown line by line. Of several rules that match, the one
in the deepest directory counts, and there the last one.

## Main definitions

- `PathRule`: a pattern for paths.
- `PathRule.accepts`: whether a path matches.
- `PathRule.isIgnored`: whether a path is kept out of the index.
- `PathRule.showsText?`: what is said about showing a path line by line.
-/

namespace ChangeReview

/-- A pattern for paths below a directory. -/
structure PathRule where
  /-- The patterns of the names, two stars standing for any directories. -/
  names : List Text
  /-- Whether only directories match. -/
  directoriesOnly : Bool
  deriving DecidableEq, Repr

namespace PathRule

/-- Any directories. -/
def anyDirectories : Text := "**"

/-- The rule that a pattern spells. Without a slash before its end it matches at any depth. -/
def ofPattern (pattern : Text) : PathRule :=
  let directoriesOnly := pattern.getLast? == some '/'
  let body := if directoriesOnly then pattern.dropLast else pattern
  let isAnchored := body.any (· == '/')
  let names := Text.splitOnChar '/' (if headIs '/' body then body.drop 1 else body)
  { names := if isAnchored then names else anyDirectories :: names, directoriesOnly }

/-- Whether patterns of names match names. Two stars at the end match at least one name. -/
def namesMatch : List Text → List Text → Bool
  | [], names => names.isEmpty
  | _ :: _, [] => false
  | pattern :: patterns, name :: names =>
    if pattern == anyDirectories then
      patterns.isEmpty || namesMatch patterns (name :: names) ||
        namesMatch (pattern :: patterns) names
    else Pathspec.wildcardsMatch pattern.utf8 name.utf8 && namesMatch patterns names

/-- Whether the path of names below the rule's directory matches. -/
def accepts (rule : PathRule) (isDirectory : Bool) (names : List Text) : Bool :=
  (isDirectory || !rule.directoriesOnly) && namesMatch rule.names names

/-- A line without spaces at its end, except one after a backslash. -/
def trimLine (line : Text) : Text :=
  let kept := Text.trimEndBy (· == ' ') line
  if kept.getLast? == some '\\' && kept.length < line.length then kept ++ [' '] else kept

/-- The lines of the file with rules in a directory that say something. -/
def linesOf (files : Tree FileNode) (fileName : Text) (directory : List Text) : List Text :=
  match files.leaf? (directory ++ [fileName]) with
  | some (.file content _) =>
    let text := Text.ofUtf8Lossy content
    let text := if headIs '\ufeff' text then text.drop 1 else text
    let lines := (Text.splitOnChar '\n' text).map fun line =>
      if line.getLast? == some '\r' then line.dropLast else line
    lines.filter fun line => !(line.all (· == ' ')) && !headIs '#' line
  | _ => []

/-- What is said about a path by the files with rules: the answer of the deepest directory that has
one. `answer` gives the answer of a line about a path below its directory. -/
def answerFor {α : Type} (files : Tree FileNode) (fileName : Text)
    (answer : Text → List Text → Option α) (names : List Text) : Option α :=
  let depths := (List.range names.length).reverse
  depths.findSome? fun depth =>
    let lines := linesOf files fileName (names.take depth)
    lines.reverse.findSome? fun line => answer line (names.drop depth)

/-- Whether a line keeps a path out of the index, if it says anything about it. -/
def ignoreAnswer (isDirectory : Bool) (line : Text) (names : List Text) : Option Bool :=
  let line := trimLine line
  let ignored := !headIs '!' line
  let rule := ofPattern (if ignored then line else line.drop 1)
  if rule.accepts isDirectory names then some ignored else none

/-- The name of the files that keep paths out of the index. -/
def ignoreFile : Text := ".gitignore"

/-- Whether a file that is not in the index is kept out of it, itself or with a directory. -/
def isIgnored (files : Tree FileNode) (names : List Text) : Bool :=
  (List.range names.length).any fun depth =>
    let isDirectory := depth + 1 < names.length
    answerFor files ignoreFile (ignoreAnswer isDirectory) (names.take (depth + 1)) == some true

/-- What is said about showing contents. -/
inductive Display where
  | lines
  | summary
  | unspecified
  deriving DecidableEq, Repr

/-- What a word says about showing contents. -/
def display? (word : Text) : Option Display :=
  match String.ofList word with
  | "diff" => some .lines
  | "-diff" => some .summary
  | "binary" => some .summary
  | "!diff" => some .unspecified
  | _ => if "diff=".toList.isPrefixOf word then some .unspecified else none

/-- What a line says about showing a path. -/
def displayAnswer (line : Text) (names : List Text) : Option Display :=
  let words := (Text.splitOnChar ' ' (line.map fun c => if c == '\t' then ' ' else c)).filter
    (!·.isEmpty)
  match words with
  | [] => none
  | pattern :: words =>
    if (ofPattern pattern).accepts false names then words.reverse.findSome? display? else none

/-- The name of the files that say how paths are shown. -/
def displayFile : Text := ".gitattributes"

/-- Whether a path is shown line by line, if its content does not decide. -/
def showsText? (files : Tree FileNode) (names : List Text) : Option Bool :=
  match answerFor files displayFile displayAnswer names with
  | some .lines => some true
  | some .summary => some false
  | _ => none

end PathRule

end ChangeReview
