/-!
# Findings

A match is an occurrence of a rule's pattern on a line; an issue is what a run tells about a
match that no exception covers, or about nested control structures. Lines and columns are counted
from one; they are integers, as findings may also come from elsewhere.
-/

namespace SlopLint

/-- An occurrence of a rule's pattern. -/
structure Match where
  file : String
  line : Int
  column : Int
  text : String
  ruleId : String
deriving DecidableEq, Repr

/-- A finding. Its severity is a name, usually that of a `Severity`. -/
structure Issue where
  ruleId : String
  file : String
  line : Int
  column : Int
  code : String
  message : String
  severity : String
deriving DecidableEq, Repr

/-- Where a finding is on its file: line and column with a colon between them. Both are told whatever
their size, without a bound on their digits. -/
def Issue.location (issue : Issue) : String :=
  s!"{issue.line}:{issue.column}"

end SlopLint
