import ChangeReview.FileFilter

/-!
# Failures

Why a command cannot do its work, and what is said about it.

## Main definitions

- `FileFault`: why a file cannot be read or written.
- `Failure`: the causes of a failed command.
- `Failure.category`, `Failure.message`, `Failure.detail`, `Failure.suggestion`: what is reported.
-/

namespace ChangeReview

/-- The kinds of file faults that matter to a report. -/
inductive FileFault.Kind where
  | notFound
  | permissionDenied
  | invalidData
  | other
  deriving DecidableEq, Repr

/-- Why a file cannot be read or written. -/
structure FileFault where
  /-- What kind of fault it is. -/
  kind : FileFault.Kind
  /-- The words of the operating system. -/
  message : Text
  deriving DecidableEq, Repr

/-- Why a configuration file cannot be decoded. -/
inductive DecodeFault where
  /-- The text does not follow the grammar. -/
  | malformed
  /-- The text follows the grammar, and does not describe a configuration. -/
  | unexpected (message : Text)
  deriving DecidableEq, Repr

/-- Why a command cannot do its work. -/
inductive Failure where
  /-- The configuration makes no sense. -/
  | config (message : Text)
  /-- A file that is needed cannot be read. -/
  | fileRead (path : Path) (cause : FileFault)
  /-- A pattern of the configuration is no glob. -/
  | invalidPattern (cause : PatternFault)
  /-- A file cannot be written. -/
  | system (cause : FileFault)
  /-- The configuration file cannot be decoded. -/
  | decode (cause : DecodeFault)
  /-- The repository does not answer. -/
  | repository (message : Text)
  /-- There is no repository. -/
  | repositoryNotFound (message : Text)
  /-- The findings cannot be posted. -/
  | review (message : Text)
  deriving DecidableEq, Repr

/-- What is said about a text outside the grammar. -/
def DecodeFault.message : DecodeFault → Text
  | malformed => "the text is not well-formed"
  | unexpected message => message

namespace Failure

/-- The heading of a report. -/
def category : Failure → Text
  | config _ => "Config"
  | decode _ => "Config"
  | invalidPattern _ => "Config"
  | fileRead .. => "FileRead"
  | system _ => "IO"
  | repository _ => "Git"
  | repositoryNotFound _ => "Git"
  | review _ => "Review"

/-- What went wrong. -/
def message : Failure → Text
  | config message => message
  | repository message => message
  | repositoryNotFound message => message
  | review message => message
  | fileRead path _ => path
  | invalidPattern cause => cause.pattern
  | system cause => cause.message
  | decode cause => cause.message

/-- What a full sentence about the failure begins with. -/
def preamble : Failure → Text
  | config _ => "Configuration error: "
  | fileRead .. => "Failed to read file: "
  | invalidPattern _ => "Invalid glob pattern: "
  | system _ => "IO error: "
  | decode _ => "TOML parse error: "
  | repository _ => "Git error: "
  | repositoryNotFound _ => "Not a git repository: "
  | review _ => "Review posting failed: "

/-- A full sentence about the failure. -/
def sentence (failure : Failure) : Text := failure.preamble ++ failure.message

/-- The cause of the failure, if the message does not give it. -/
def detail : Failure → Option Text
  | fileRead _ cause => some cause.message
  | invalidPattern cause => some cause.message
  | _ => none

/-- What can be done about an unreadable file. -/
def fileSuggestion : FileFault.Kind → Option Text
  | .notFound => some "Check that the file path exists"
  | .permissionDenied => some "Check the file permissions"
  | _ => none

/-- What can be done about the failure. -/
def suggestion : Failure → Option Text
  | config _ =>
    some "Check the config file format; \x60doc-guard init\x60 writes a valid template"
  | decode _ =>
    some "Check the config file format; \x60doc-guard init\x60 writes a valid template"
  | fileRead _ cause => fileSuggestion cause.kind
  | invalidPattern _ => some "Use glob syntax, e.g. \"**/generated/**\" or \"src/*.ts\""
  | repositoryNotFound _ => some "Run the command inside a git working tree"
  | repository _ => some "Check that the base reference exists (fetch it in CI if needed)"
  | review _ => some "Check the token permissions and the pull request number"
  | system _ => none

end Failure

end ChangeReview
