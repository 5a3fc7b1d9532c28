import SlopLint.Console.Item
import SlopLint.Detection
import SlopLint.FileKind

/-!
# The summary of a run

What a run prints: how many issues there are of each severity, the first ones of each severity
grouped by their rules, the rules and the files with the most issues, and the score.

Lists are cut off after some entries. Rankings put the higher counts first and keep the order of
first appearance among equal ones.
-/

namespace SlopLint.Summary

open Console

/-- How many issues of a severity are looked at. -/
def blockSize : Nat := 20

/-- How many issues of a rule are shown. -/
def instanceCount : Nat := 3

def ruleCount : Nat := 10

/-- How many of the application's own files are ranked. -/
def coreCount : Nat := 10

def otherCount : Nat := 5

/-- The first issues of a severity under the ids of their rules. -/
def ruleGroups (issues : List Issue) : List (String × List Issue) :=
  groupBy Issue.ruleId (issues.take blockSize)

/-- What explains a rule: the rule itself if it is known, else the message of its first issue. -/
def explanation (rule : Option Rule) (issues : List Issue) : List String :=
  match rule with
  | none => issues.head?.toList.map fun issue => s!"   Description: {issue.message}"
  | some rule =>
    let line (label : String) : Option String → List String
      | none => []
      | some text => if text = "" then [] else [s!"   {label}: {text}"]
    s!"   Description: {rule.description}" ::
      line "Fix" rule.fix ++ line "Learn more" rule.learnMore

def instanceLine (issue : Issue) : String :=
  s!"   -> {issue.file}:{issue.line} - {issue.code}"

/-- What is printed for the issues of one rule. -/
def groupItems (rules : Option RuleSet) (ruleId : String) (issues : List Issue) : List Item :=
  let rule := rules.bind fun rules => rules.get? ruleId
  .marked s!"\n  Pattern: [bold]{ruleId}[/]" ::
    (explanation rule issues).map .plain ++
    .marked s!"   Sample occurrences: {issues.length}" ::
    (issues.take instanceCount).map (.plain <| instanceLine ·) ++
    if instanceCount < issues.length then
      [.marked s!"   ... and {issues.length - instanceCount} more instances"]
    else []

/-- What is printed for the issues of one severity. -/
def severityItems (rules : Option RuleSet) (severity : Severity) (issues : List Issue) :
    List Item :=
  if issues.isEmpty then []
  else
    .marked s!"\n{severity.name.toUpper} SEVERITY ISSUES" ::
      (ruleGroups issues).flatMap (fun (ruleId, members) => groupItems rules ruleId members) ++
      if blockSize < issues.length then
        [.marked s!"\n   ... and {issues.length - blockSize} more issues of this severity"]
      else []

/-- The values of the issues with their counts, the highest first. -/
def ranking (value : Issue → String) (issues : List Issue) : List (String × Nat) :=
  ((groupBy value issues).map fun (value, members) => (value, members.length)).mergeSort
    fun a b => decide (b.2 ≤ a.2)

/-- The ranked files of the application itself, or the others. -/
def rankedFiles (core : Bool) (issues : List Issue) : List (String × Nat) :=
  (ranking Issue.file issues).filter fun (file, _) =>
    FileKind.startsInCore (FileKind.normalize file) == core

def fileLine (file : String) (count : Nat) : String :=
  s!"  {file}: {count} issues"

/-- What is printed about the rules with the most issues. -/
def ruleItems (issues : List Issue) : List Item :=
  .marked "\nIssues by type:" ::
    ((ranking Issue.ruleId issues).take ruleCount).map fun (ruleId, count) =>
      .marked s!"  {ruleId}: {count}"

/-- What is printed about the application's own files. -/
def coreItems (issues : List Issue) : List Item :=
  let files := (rankedFiles true issues).take coreCount
  .marked "\nTop CORE APPLICATION files with AI slop issues:" ::
    if files.isEmpty then [.marked "  No core application files found with issues"]
    else files.map fun (file, count) => .plain (fileLine file count)

def otherItems (quiet : Bool) (issues : List Issue) : List Item :=
  let files := (rankedFiles false issues).take otherCount
  if quiet || files.isEmpty then []
  else
    .marked "\nTop OTHER files with AI slop issues (utilities, scripts, etc.):" ::
      files.map fun (file, count) => .plain (fileLine file count)

def severityTable (detection : Detection) : Table where
  title := s!"Found {detection.issues.length} AI slop issues"
  columns := [⟨"Severity", .left⟩, ⟨"Occurrences", .right⟩]
  hasHeader := true
  rows := Severity.all.map fun severity =>
    [severity.name, toString (detection.bySeverity severity).length]

def scoreTable (score : Score) : Table where
  title := "Slop Index"
  columns := [{}, {}]
  hasHeader := false
  rows := [
    ["Information Utility (Noise)", s!"{score.utility} pts"],
    ["Information Quality (Lies)", s!"{score.quality} pts"],
    ["Style / Taste (Soul)", s!"{score.style} pts"],
    ["TOTAL", s!"{score.total} pts"]]

/-- The sentence that a verdict is told with. -/
def verdictLine : Verdict → String
  | .clean => "CLEAN. This codebase has taste."
  | .slopFed => "This codebase is slop-fed."
  | .acceptable => "Acceptable. But keep an eye on it."

def scoreItems (score : Score) : List Item :=
  [.table (scoreTable score), .marked (verdictLine score.verdict)]

/-- What is printed about the issues of a run. -/
def issueItems (rules : Option RuleSet) (quiet : Bool) (detection : Detection) : List Item :=
  .table (severityTable detection) ::
    Severity.all.flatMap
      (fun severity => severityItems rules severity (detection.bySeverity severity)) ++
    ruleItems detection.issues ++ coreItems detection.issues ++ otherItems quiet detection.issues

/-- What is printed after a run. Without rules the issues explain themselves. -/
def items (rules : Option RuleSet) (quiet : Bool) (detection : Detection) : List Item :=
  let body :=
    if detection.issues.isEmpty then [.marked "No AI slop issues detected!"]
    else issueItems rules quiet detection
  .marked "AI Slop Detection Report" :: body ++ scoreItems detection.score

end SlopLint.Summary
