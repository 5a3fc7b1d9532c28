import SlopLint.Context
import SlopLint.Nesting
import SlopLint.RuleSet

/-!
# Scanning

A line is searched for the rules in their order, each from left to right. The findings of a file
are those of its lines in order: the matches that count, then the findings about nesting.
-/

namespace SlopLint

open Text

namespace Scan

/-- The matches of one rule on a line. -/
def ruleMatches (file : String) (number : Int) (line : Line) (rule : Rule) : List Match :=
  (rule.pattern.occurrences line).map fun occurrence =>
    ⟨file, number, occurrence.start + 1, String.ofList occurrence.text, rule.id⟩

/-- The matches of all rules on a line. -/
def lineMatches (file : String) (number : Int) (rules : List Rule) (line : Line) : List Match :=
  rules.flatMap (ruleMatches file number line)

/-- The place of a match in its file. -/
def site (lines : List Line) (found : Match) : Site :=
  ⟨found.file, lines, found.line - 1, found.column⟩

/-- The issue that a match of a rule becomes. -/
def toIssue (rule : Rule) (found : Match) : Issue where
  ruleId := rule.id
  file := found.file
  line := found.line
  column := found.column
  code := found.text
  message := rule.findingMessage
  severity := rule.severity.name

/-- Whether a match of a rule counts. Where the lines are those of the file, none is missing. -/
def counts (rule : Rule) (kinds : FileKinds) (quiet : Bool) (lines : List Line) (found : Match) :
    Bool :=
  match accepts rule.subject kinds quiet (site lines found) with
  | .ok answer => answer
  | .error _ => false

/-- The issues of one rule on a line. -/
def ruleIssues (kinds : FileKinds) (quiet : Bool) (file : String) (lines : List Line)
    (number : Int) (line : Line) (rule : Rule) : List Issue :=
  ((ruleMatches file number line rule).filter (counts rule kinds quiet lines)).map (toIssue rule)

/-- The issues of a line. -/
def lineIssues (set : RuleSet) (quiet : Bool) (file : String) (lines : List Line) (number : Int)
    (line : Line) : List Issue :=
  set.rules.flatMap (ruleIssues (.ofPath file) quiet file lines number line) ++
    -- no exception is asked for these
    Nesting.issues file number line

/-- The issues of a file. -/
def fileIssues (set : RuleSet) (quiet : Bool) (file content : String) : List Issue :=
  let lines := Text.lines content.toList
  lines.zipIdx.flatMap fun (line, i) => lineIssues set quiet file lines (i + 1 : Nat) line

end Scan

end SlopLint
