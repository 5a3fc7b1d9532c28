import SlopLint.Json.Writer
import SlopLint.Report.Basic

/-!
# Reports as JSON

The members of every object stand in a fixed order; the time of the report comes first.
-/

namespace SlopLint

def Json.strings (texts : List String) : Json :=
  .array (texts.map .string)

def Score.toJson (score : Score) : Json :=
  .object [
    ("informationUtility", .int score.utility), ("informationQuality", .int score.quality),
    ("style", .int score.style), ("total", .int score.total)]

/-- A consolidated finding as JSON. -/
def Consolidated.toJson (entry : Consolidated) : Json :=
  .object [
    ("type", .string entry.key.ruleId), ("file", .string entry.key.file),
    ("code", .string entry.key.code), ("message", .string entry.key.message),
    ("severity", .string entry.key.severity), ("location", .strings entry.locations)]

def Sample.toJson (sample : Sample) : Json :=
  .object [
    ("file", .string sample.file), ("locations", .strings sample.locations),
    ("code", .string sample.code)]

def RuleSummary.toJson (summary : RuleSummary) : Json :=
  .object [
    ("type", .string summary.ruleId), ("occurrences", .int summary.occurrences),
    ("uniqueIssues", .int summary.uniqueIssues),
    ("sample", .array (summary.sample.map Sample.toJson))]

namespace Report

/-- The members of a report without its time. -/
def members (report : Report) : List (String × Json) := [
  ("filesScanned", .int report.filesScanned), ("uniqueIssues", .int report.uniqueIssues),
  ("totalOccurrences", .int report.totalOccurrences),
  ("bySeverity",
    .object (report.bySeverity.map fun (severity, count) => (severity.name, .int count))),
  ("byType", .array (report.byRule.map RuleSummary.toJson)),
  ("score", report.score.toJson), ("verdict", .string report.verdict.name),
  ("issues", .array (report.issues.map Consolidated.toJson))]

/-- A report as JSON, with the time it was made. -/
def toJson (timestamp : String) (report : Report) : Json :=
  .object (("timestamp", .string timestamp) :: report.members)

def text (timestamp : String) (report : Report) : String :=
  Json.write (report.toJson timestamp)

/-- The name of the file that a report goes to unless another one is asked for. -/
def defaultName : String := "ai-slop-report.json"

end Report

end SlopLint
