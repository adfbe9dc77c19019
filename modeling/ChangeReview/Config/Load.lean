import ChangeReview.Config.Decode
import ChangeReview.Config.Validation

/-!
# Loading a configuration

The configuration comes from a file that is named, or else from a file in the current directory, or
else consists of the defaults.

## Main definitions

- `FileAccess`: what loading asks of a file system.
- `Config.load`, `Config.loadFile`: the configuration in effect.
-/

namespace ChangeReview

/-- What loading a configuration asks of a file system. -/
structure FileAccess where
  /-- The text of a file. -/
  read : Path → Except FileFault Text
  /-- Whether there is a file or directory. -/
  present : Path → Bool
  /-- The current directory, if it can be found out. -/
  currentDirectory : Option Path

namespace Config

/-- The name of the configuration file of a project. -/
def fileName : Path := ".doc-guard.toml"

/-- The sensible configuration in the text of a file. -/
def ofText (content : Text) : Except Failure Config := do
  let config ← (decode content).mapError .decode
  validate config
  .ok config

/-- The configuration in a file. -/
def loadFile (access : FileAccess) (path : Path) : Except Failure Config := do
  let content ← (access.read path).mapError (.fileRead path)
  ofText content

/-- The configuration of the current directory, or the defaults. -/
def load (access : FileAccess) : Except Failure Config :=
  match access.currentDirectory with
  | none => .ok {}
  | some directory =>
    let path := Path.join directory fileName
    if access.present path then loadFile access path else .ok {}

end Config

end ChangeReview
