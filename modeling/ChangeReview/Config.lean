import ChangeReview.Documentation

/-!
# Configuration

Every setting has a default, so that an empty configuration file means the default configuration.

## Main definitions

- `Config`: all settings, by the section of the configuration file that holds them.
-/

namespace ChangeReview

/-- Which files are checked. -/
structure Config.Scanner where
  /-- File name extensions of sources, without the dot. -/
  extensions : List Text := ["ts"]
  /-- File name extensions of stylesheets, without the dot. -/
  styleExtensions : List Text := ["css", "scss", "less"]
  /-- Glob patterns of paths that are skipped. -/
  exclude : List Text := ["**/node_modules/**", "**/dist/**"]
  /-- Endings of the names of files that are skipped. -/
  excludeSuffixes : List Text := [".spec.ts", ".test.ts", ".stories.ts", ".d.ts"]
  deriving DecidableEq, Repr

/-- How declarations are checked. -/
structure Config.Documentation where
  /-- How many lines after a changed range a declaration is still checked. -/
  nearWindow : Nat := 5
  /-- Whether methods that return nothing need a return tag. -/
  voidReturn : Documentation.VoidReturn := .require
  /-- Whether a declaration needs an access modifier. -/
  requireAccessModifier : Bool := true
  /-- Whether a method needs a declared return type. -/
  requireReturnType : Bool := true
  deriving DecidableEq, Repr

/-- Which checks of single lines run. -/
structure Config.Detectors where
  debugStatements : Bool := true
  breakpoints : Bool := true
  todo : Bool := true
  fixme : Bool := true
  styles : Bool := true
  deriving DecidableEq, Repr

/-- How findings are published. -/
structure Config.Review where
  /-- The largest number of inline comments in one review. -/
  maxComments : Nat := 30
  deriving DecidableEq, Repr

/-- All settings. -/
structure Config where
  scanner : Config.Scanner := {}
  documentation : Config.Documentation := {}
  detectors : Config.Detectors := {}
  review : Config.Review := {}
  deriving DecidableEq, Repr

end ChangeReview
