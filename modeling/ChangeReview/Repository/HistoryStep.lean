import ChangeReview.Repository

/-!
# Steps of a history

A history grows by steps that record files, move between commits and name them.

## Main definitions

- `HistoryStep`: one step.
- `HistoryStep.ofWords?`: the step that words spell.
-/

namespace ChangeReview

/-- A step in the growth of a history. -/
inductive HistoryStep where
  /-- All files enter the index as they are. -/
  | stageAll
  /-- The files at and below some paths enter the index as they are. -/
  | stage (paths : List Path)
  /-- The index becomes a commit, if it changes something or need not. The files that it knows may
  enter it before. -/
  | record (evenUnchanged stagesKnown : Bool) (message : Text)
  /-- A branch begins at a commit, and is checked out or not. -/
  | branch (name : Text) (start : Text) (checkOut : Bool)
  /-- A branch without commits is checked out. -/
  | unbornBranch (name : Text)
  /-- A branch gets another name. Without an old name it is the one that is checked out. -/
  | renameBranch (old : Option Text) (new : Text)
  /-- A commit or branch is checked out. -/
  | checkOut (target : Text) (detached forced : Bool)
  /-- Files become what they are in a commit, or else in the index. -/
  | restore (source : Option Text) (paths : List Path)
  /-- A commit gets a reference with a full name. -/
  | refer (reference target : Text)
  /-- References are forgotten. -/
  | forget (references : List Text)
  /-- A file of the index becomes executable or ceases to be. -/
  | setExecutable (path : Path) (executable : Bool)
  /-- Another commit becomes a parent of a new one, which keeps the files as they are or takes over
  what changed on the other side. If nothing changed on this side, the new commit can be spared. -/
  | join (target : Text) (keepsFiles mayAdvance : Bool) (message : Option Text)
  /-- The checked out branch moves to a commit, with the index and perhaps the files. -/
  | reset (target : Text) (files : Bool)
  /-- Files leave the index, and perhaps the directory. -/
  | remove (paths : List Path) (fromIndexOnly : Bool)
  /-- Files get another path. -/
  | move (sources : List Path) (target : Path)
  /-- Another repository enters the index at one of its commits. -/
  | addSubmodule (path : Path) (commit : Text)
  /-- The repository is copied without its files. -/
  | copyBare (path : Path)
  /-- Nothing that shows. -/
  | nothing
  deriving DecidableEq, Repr

namespace HistoryStep

/-- The words that are no options, where an option of the list is followed by its value. -/
def operands (valued : List Text) : List Text → List Text
  | [] => []
  | [word] => if headIs '-' word then [] else [word]
  | word :: value :: rest =>
    if valued.contains word then operands valued rest
    else if headIs '-' word then operands valued (value :: rest)
    else word :: operands valued (value :: rest)

/-- The value of the first of several options. -/
def valueOf? (names : List Text) : List Text → Option Text
  | [] => none
  | [_] => none
  | word :: value :: rest =>
    if names.contains word then some value else valueOf? names (value :: rest)

/-- Whether one of several options is given. -/
def given (names words : List Text) : Bool := words.any (names.contains ·)

/-- The option that separates paths from other operands. -/
def separator : Text := "--"

/-- The option before a message. -/
def messageOption : Text := "--message"

/-- The letters of an option that stands for several. -/
def letters (word : Text) : Text :=
  match word with
  | '-' :: '-' :: _ => []
  | '-' :: letters => letters
  | _ => []

/-- What a word says as a message, which is empty if the next word says it. -/
def messageIn? (word : Text) : Option Text :=
  if word == messageOption then some []
  else if (messageOption ++ ['=']).isPrefixOf word then some (word.drop (messageOption.length + 1))
  else (Text.splitFirst 'm' (letters word)).map (·.2)

/-- The messages among the words. -/
def messages : List Text → List Text
  | [] => []
  | [word] => (messageIn? word).toList.filter (!·.isEmpty)
  | word :: value :: rest =>
    match messageIn? word with
    | some [] => value :: messages rest
    | some glued => glued :: messages (value :: rest)
    | none => messages (value :: rest)

/-- The lines without empty ones at the start, at the end and after another empty line. `started`
tells whether a line came before, and `pending` whether it was empty. -/
def squeeze (started pending : Bool) : List Text → List Text
  | [] => []
  | line :: lines =>
    if line.isEmpty then squeeze started started lines
    else (if pending then [[], line] else [line]) ++ squeeze true false lines

/-- A message as a commit holds it. -/
def tidy (message : Text) : Text :=
  let isGap (c : Char) : Bool := c == ' ' || c == '\t' || c == '\r'
  Text.unlines (squeeze false false
    ((Text.splitOnChar '\n' message).map fun line => Text.trimEndBy isGap line))

/-- The message of several ones, each a paragraph. -/
def tidyAll (messages : List Text) : Text := tidy (Text.joinWith "\n\n" messages)

/-- The step that records the index. -/
def recordOf (words : List Text) : HistoryStep :=
  let options := words.takeWhile (· != separator)
  let isKnown (word : Text) : Bool :=
    ((letters word).takeWhile (· != 'm')).contains 'a' || word == "--all".toList
  .record (given ["--allow-empty"] options) (options.any isKnown) (tidyAll (messages words))

/-- The step that checks something out. -/
def checkOutOf (words : List Text) : Option HistoryStep :=
  let creating : List Text := ["-b", "-B", "-c", "-C"]
  let others := operands creating words
  match valueOf? ["--orphan"] words, valueOf? creating words with
  | some name, _ => some (.unbornBranch name)
  | none, some name => some (.branch name (others.head?.getD Repository.headName) true)
  | none, none =>
    if given [separator] words then
      let paths := (words.dropWhile (· != separator)).drop 1
      some (.restore (operands [] (words.takeWhile (· != separator))).head? paths)
    else
      match others with
      | [] => none
      | [target] =>
        some (.checkOut target (given ["--detach", "-d"] words) (given ["-f", "--force"] words))
      | target :: paths => some (.restore (some target) paths)

/-- The full name of a branch. -/
def branchReference (name : Text) : Text := "refs/heads/" ++ name

/-- The full name of a tag. -/
def tagReference (name : Text) : Text := "refs/tags/" ++ name

/-- The step that changes branches. -/
def branchOf (words : List Text) : HistoryStep :=
  let others := operands [] words
  if given ["-d", "-D", "--delete"] words then .forget (others.map branchReference)
  else if given ["-m", "-M", "--move"] words then
    match others with
    | [] => .nothing
    | [new] => .renameBranch none new
    | old :: new :: _ => .renameBranch (some old) new
  else
    match others with
    | [] => .nothing
    | name :: rest => .branch name (rest.head?.getD Repository.headName) false

/-- The step that changes tags. -/
def tagOf (words : List Text) : HistoryStep :=
  let others := operands ["-m", messageOption] words
  if given ["-d", "--delete"] words then .forget (others.map tagReference)
  else
    match others with
    | [] => .nothing
    | name :: rest => .refer (tagReference name) (rest.head?.getD Repository.headName)

/-- The mode of an entry that is another repository. -/
def submoduleMode : Text := "160000"

/-- The step that adds an entry of a mode. -/
def submoduleOf (mode commit : Text) (path : Path) : Option HistoryStep :=
  if mode == submoduleMode then some (.addSubmodule path commit) else none

/-- The step that changes an entry of the index. -/
def updateOf (words : List Text) : Option HistoryStep :=
  let paths := operands [] words
  if given ["--cacheinfo"] words then
    match paths.map (Text.splitOnChar ',') with
    | [[mode, commit, path]] => submoduleOf mode commit path
    | [[mode], [commit], [path]] => submoduleOf mode commit path
    | _ => none
  else if given ["--chmod=+x"] words then paths.head?.map (.setExecutable · true)
  else if given ["--chmod=-x"] words then paths.head?.map (.setExecutable · false)
  else none

/-- The step that joins another commit. -/
def joinOf (words : List Text) : Option HistoryStep :=
  let strategy : List Text := ["-s", "--strategy"]
  let keepsFiles :=
    valueOf? strategy words == some "ours".toList || given ["-sours", "--strategy=ours"] words
  let said := messages words
  let message := if said.isEmpty then none else some (tidyAll said)
  (operands ("-m".toList :: messageOption :: strategy) words).head?.map fun target =>
    .join target keepsFiles (!keepsFiles && !given ["--no-ff"] words) message

/-- The step that the words after a name spell. -/
def ofWords? : List Text → Option HistoryStep
  | [] => none
  | name :: words =>
    let others := operands [] words
    match String.ofList name with
    | "add" =>
      some (if others.isEmpty || others.contains ['.'] then .stageAll else .stage others)
    | "commit" => some (recordOf words)
    | "checkout" => checkOutOf words
    | "switch" => checkOutOf words
    | "restore" =>
      some (.restore (valueOf? ["-s", "--source"] words) (operands ["-s", "--source"] words))
    | "branch" => some (branchOf words)
    | "tag" => some (tagOf words)
    | "update-ref" =>
      if given ["-d"] words then some (.forget (others.take 1))
      else
        match others with
        | reference :: target :: _ => some (.refer reference target)
        | _ => none
    | "update-index" => updateOf words
    | "merge" => joinOf words
    | "reset" =>
      some (.reset (others.head?.getD Repository.headName) (given ["--hard"] words))
    | "rm" => some (.remove others (given ["--cached"] words))
    | "mv" => others.getLast?.map (.move others.dropLast ·)
    | "clone" => if given ["--bare"] words then others.getLast?.map .copyBare else none
    | _ => some .nothing

end HistoryStep

end ChangeReview
