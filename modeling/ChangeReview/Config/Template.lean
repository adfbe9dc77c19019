import ChangeReview.Config

/-!
# The configuration template

The file that a new project starts from. It gives every setting its default.

## Main definitions

- `Config.template`: the text of the file.
-/

namespace ChangeReview.Config

/-- The lines of the template. -/
def templateLines : List String :=
  ["# doc-guard configuration file",
    "# Every setting is optional; the values below are the defaults.",
    "",
    "[scanner]",
    "# Extensions (without the dot) that receive documentation checks",
    "extensions = [\"ts\"]",
    "",
    "# Stylesheets checked for utility-class equivalents and hardcoded values",
    "style_extensions = [\"css\", \"scss\", \"less\"]",
    "",
    "# Glob patterns of paths to skip",
    "exclude = [\"**/node_modules/**\", \"**/dist/**\"]",
    "",
    "# File name endings to skip",
    "exclude_suffixes = [\".spec.ts\", \".test.ts\", \".stories.ts\", \".d.ts\"]",
    "",
    "[documentation]",
    "# Declarations up to this many lines after a changed range are still checked,",
    "# so editing a doc comment re-checks the declaration below it",
    "near_window = 5",
    "",
    "# \"require\": methods returning void need @returns too",
    "# \"exempt\":  void, Promise<void> and never methods may omit @returns",
    "void_return = \"require\"",
    "",
    "# Flag members without public/protected/private",
    "require_access_modifier = true",
    "",
    "# Flag methods without a declared return type",
    "require_return_type = true",
    "",
    "[detectors]",
    "debug_statements = true   # console.log and friends",
    "breakpoints = true        # debugger statements",
    "todo = true",
    "fixme = true",
    "styles = true             # stylesheet checks",
    "",
    "[review]",
    "# Inline comments per review; the rest are counted in the summary",
    "max_comments = 30"]

/-- The text of a configuration file that gives every setting its default. -/
def template : Text := Text.unlines (templateLines.map String.toList)

end ChangeReview.Config
