import ChangeReview.CommandLine.Parser
import ChangeReview.Workspace

/-!
# The program

The program copies the files that its command line mentions into memory, runs the command on them,
and writes and prints what comes of it. It reaches neither a repository nor a hosting service.

## Main definitions

- `main`: the program.
-/

namespace ChangeReview.Program

/-- The names that lead to a path, where two dots take back the name before them. -/
def namesOf (current : List Text) (path : Path) : List Text :=
  let start := if Path.isAbsolute path then [] else current
  (Text.splitOnChar '/' path).foldl
    (fun names part =>
      if Path.isSkipped part then names
      else if part == ['.', '.'] then names.dropLast
      else names ++ [part])
    start

/-- The paths that a command reads or writes, apart from those that it finds in directories. -/
def mentioned (line : CommandLine) : List Path :=
  match line.command with
  | .check arguments =>
    Config.fileName :: arguments.config.toList ++ arguments.output.toList ++ arguments.paths
  | .review arguments => Config.fileName :: arguments.config.toList
  | .init arguments => [arguments.output]

/-- The path of names, for the operating system. -/
def spell (names : List Text) : String := String.ofList (FileSystem.absolute names)

/-- A copy of a file or directory, if it can be read. Symbolic links below it are left out. -/
partial def copy (names : List Text) : IO (Option (Tree FileNode)) := do
  let file := System.mkFilePath [spell names]
  if ← file.isDir then
    let entries ← file.readDir
    let mut tree : Tree FileNode := .empty
    for entry in entries do
      let info ← entry.path.symlinkMetadata
      match info.type with
      | .symlink => pure ()
      | _ =>
        let name := entry.fileName.toList
        if let some inner ← copy (names ++ [name]) then
          tree := .insert inner [name] tree
    return some tree
  else if ← file.pathExists then
    try
      let content ← IO.FS.readBinFile file
      return some (.leaf (.file content.toList false))
    catch _ => return none
  else return none

/-- The tree with the file or directory that a path leads to. If there is none, the directory for it
is added without its entries. -/
def load (root : Tree FileNode) (names : List Text) : IO (Tree FileNode) := do
  match ← copy names with
  | some tree => return .insert tree names root
  | none =>
    let parent := names.dropLast
    if (root.find? parent).isNone && (← (System.mkFilePath [spell parent]).isDir) then
      return .insert .empty parent root
    else return root

/-- The command line with what the environment knows about the pull request. -/
def withEnvironment (line : CommandLine) : IO CommandLine := do
  match line.command with
  | .review arguments =>
    let repo := (← IO.getEnv "GITHUB_REPOSITORY").map String.toList
    let token := (← IO.getEnv "GITHUB_TOKEN").map String.toList
    let arguments :=
      { arguments with
        repo := arguments.repo <|> repo
        token := arguments.token <|> token }
    return { line with command := .review arguments }
  | _ => return line

/-- Runs a command and returns its exit code. -/
def execute (line : CommandLine) : IO UInt32 := do
  let current := namesOf [] (← IO.currentDir).toString.toList
  let places := (mentioned line).map (namesOf current)
  let root ← places.foldlM load (.insert .empty current .empty)
  let workspace : Workspace :=
    { files := { root, current }
      worktree := .error (.repositoryNotFound ".: repositories cannot be read here")
      poster := Review.Poster.unreachable }
  let outcome := workspace.run line
  if let some (path, text) := outcome.written then
    IO.FS.writeFile (System.mkFilePath [String.ofList path]) (String.ofList text)
  IO.print (String.ofList outcome.output)
  IO.eprint (String.ofList outcome.messages)
  return UInt32.ofNat outcome.exitCode

end ChangeReview.Program

/-- Runs the command that the arguments ask for. -/
def main (arguments : List String) : IO UInt32 := do
  match ChangeReview.CommandLine.parse (arguments.map String.toList) with
  | .error fault =>
    if fault.exitCode != 0 then IO.eprintln "error: the command line is not understood"
    IO.println "Usage: doc-guard [OPTIONS] <check|review|init> [ARGUMENTS]"
    return UInt32.ofNat fault.exitCode
  | .ok line => ChangeReview.Program.execute (← ChangeReview.Program.withEnvironment line)
