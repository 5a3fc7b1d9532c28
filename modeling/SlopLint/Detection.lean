import SlopLint.Consolidation
import SlopLint.Scan
import SlopLint.Score

/-!
# Detection

A run scans source files in the order given and collects the issues of all of them, their
consolidation and their score.
-/

namespace SlopLint

structure SourceFile where
  path : String
  content : String
deriving DecidableEq, Repr

/-- What a run has found. -/
structure Detection where
  issues : List Issue
  consolidated : List Consolidated
  score : Score
  filesScanned : Nat
deriving DecidableEq

namespace Detection

def ofIssues (issues : List Issue) (filesScanned : Nat) : Detection where
  issues := issues
  consolidated := consolidate issues
  score := .ofIssues issues
  filesScanned := filesScanned

def bySeverity (detection : Detection) (severity : Severity) : List Issue :=
  detection.issues.filter (·.severity == severity.name)

def hasCritical (detection : Detection) : Bool :=
  detection.issues.any (·.severity == Severity.critical.name)

def filesIssues (set : RuleSet) (quiet : Bool) (files : List SourceFile) : List Issue :=
  files.flatMap fun file => Scan.fileIssues set quiet file.path file.content

/-- Scans files for the rules of a set. -/
def scan (set : RuleSet) (quiet : Bool) (files : List SourceFile) : Detection :=
  ofIssues (filesIssues set quiet files) files.length

/-- The rules of a run: those of the settings, or the built-in ones without settings. -/
def rulesOf : Option Settings → Except Settings.Fault RuleSet
  | none => .ok RuleSet.default
  | some settings => RuleSet.ofSettings settings

/-- Scans files under the given settings. -/
def run (settings : Option Settings) (quiet : Bool) (files : List SourceFile) :
    Except Settings.Fault Detection := do
  pure (scan (← rulesOf settings) quiet files)

end Detection

end SlopLint
