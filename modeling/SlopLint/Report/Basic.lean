import SlopLint.Detection

/-!
# Reports

A report summarises a run: how many findings there are by severity and by rule, with a few samples
of each rule, the score with its verdict, and all consolidated findings.
-/

namespace SlopLint

/-- One of the first findings of a rule, with its first locations. -/
structure Sample where
  file : String
  locations : List String
  code : String
deriving DecidableEq

/-- What a report says about one rule. -/
structure RuleSummary where
  ruleId : String
  occurrences : Nat
  uniqueIssues : Nat
  sample : List Sample
deriving DecidableEq

structure Report where
  filesScanned : Nat
  uniqueIssues : Nat
  totalOccurrences : Nat
  bySeverity : List (Severity × Nat)
  byRule : List RuleSummary
  score : Score
  verdict : Verdict
  issues : List Consolidated
deriving DecidableEq

namespace Report

/-- How many samples of a rule, and how many locations of each, are shown. -/
def sampleSize : Nat := 3

/-- How many issues the entries stand for. -/
def occurrences (entries : List Consolidated) : Nat :=
  entries.foldr (fun entry count => entry.occurrences + count) 0

def sampleOf (entry : Consolidated) : Sample :=
  ⟨entry.key.file, entry.locations.take sampleSize, entry.key.code⟩

/-- The summary of the entries of one rule. -/
def summaryOf (ruleId : String) (entries : List Consolidated) : RuleSummary where
  ruleId := ruleId
  occurrences := occurrences entries
  uniqueIssues := entries.length
  sample := (entries.take sampleSize).map sampleOf

/-- The report on what a run has found. -/
def ofDetection (detection : Detection) : Report where
  filesScanned := detection.filesScanned
  uniqueIssues := detection.consolidated.length
  totalOccurrences := occurrences detection.consolidated
  bySeverity := Severity.all.map fun severity =>
    (severity, occurrences (detection.consolidated.filter (·.key.severity == severity.name)))
  byRule := (groupBy (·.key.ruleId) detection.consolidated).map fun (ruleId, entries) =>
    summaryOf ruleId entries
  score := detection.score
  verdict := detection.score.verdict
  issues := detection.consolidated

end Report

end SlopLint
