import ChangeReview.Failure

/-!
# Sensible configurations

What a configuration must satisfy beyond its form.

## Main definitions

- `Config.validate`: the first complaint about a configuration.
-/

namespace ChangeReview.Config

/-- The complaint about one entry of a list of extensions. -/
def checkExtension (field extension : Text) : Except Failure Unit :=
  if headIs '.' extension then
    .error (.config (Text.concat [field, " entry '", extension,
      "' must not start with a dot (use '", extension.dropWhile (· == '.'), "')"]))
  else if extension.isEmpty then
    .error (.config (Text.concat [field, " contains an empty extension"]))
  else .ok ()

/-- The first complaint about the lists of extensions. -/
def checkScanner (scanner : Scanner) : Except Failure Unit := do
  if scanner.extensions.isEmpty then
    .error (.config "scanner.extensions must list at least one extension")
  scanner.extensions.forM (checkExtension "scanner.extensions")
  scanner.styleExtensions.forM (checkExtension "scanner.style_extensions")

/-- The complaint about an exclusion pattern. -/
def checkPattern (pattern : Text) : Except Failure Unit :=
  match FileFilter.compile pattern with
  | .ok _ => .ok ()
  | .error fault => .error (.invalidPattern fault)

/-- The complaint about the bound on comments. -/
def checkReview (review : Review) : Except Failure Unit :=
  if review.maxComments = 0 then
    .error (.config "review.max_comments must be greater than 0")
  else .ok ()

/-- The first complaint about a configuration: extensions without dots and at least one of them for
sources, patterns that are globs, and at least one comment. -/
def validate (config : Config) : Except Failure Unit := do
  checkScanner config.scanner
  config.scanner.exclude.forM checkPattern
  checkReview config.review

end ChangeReview.Config
