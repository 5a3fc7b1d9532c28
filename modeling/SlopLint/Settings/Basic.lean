import SlopLint.Pattern.Basic
import SlopLint.Severity

/-!
# Settings

What a run can be told: extra rules behind the built-in ones, severities that replace those of
rules, files to leave out, and whether critical findings block.
-/

namespace SlopLint

/-- A rule of the user's own. Its description defaults to its message. -/
structure CustomRule where
  id : String
  pattern : Pattern
  message : String
  severity : Severity
  description : Option String := none
  fix : Option String := none
  learnMore : Option String := none
deriving DecidableEq

structure Settings where
  customRules : List CustomRule := []
  severityOverrides : List (String × Severity) := []
  ignorePaths : List String := []
  strict : Bool := false
deriving DecidableEq

end SlopLint
