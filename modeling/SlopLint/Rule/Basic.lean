import SlopLint.Pattern.Basic
import SlopLint.Severity
import SlopLint.Text.LetterCase
import SlopLint.Text.Search

/-!
# Rules

A rule names a kind of slop: a pattern that finds it on a line, the texts that explain it, and
the kinds of files in which it is not looked for. The words of its name decide some of the
exceptions made for it.
-/

namespace SlopLint

structure Rule where
  id : String
  pattern : Pattern
  message : String
  severity : Severity
  description : String
  fix : Option String := none
  learnMore : Option String := none
  skipInTests : Bool := false
  skipInMocks : Bool := false
deriving DecidableEq

namespace Rule

/-- The words of a rule name in lower case: the pieces between the low lines. -/
def words (id : String) : List String :=
  (Text.splitOnChar '_' (Text.lowerText id.toList)).map String.ofList

/-- Whether the rule is about the type `any`. -/
def isPermissive (id : String) : Bool :=
  (words id).contains "any"

def isUnsafe (id : String) : Bool :=
  (words id).contains "unsafe"

/-- The text that a finding of the rule carries. -/
def findingMessage (rule : Rule) : String :=
  s!"{rule.message} ({rule.description})"

end Rule

end SlopLint
