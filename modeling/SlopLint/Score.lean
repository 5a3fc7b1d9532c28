import SlopLint.Finding
import SlopLint.Text.Search

/-!
# Scores

Every issue adds the weight of its rule to one of three axes, which the id of the rule decides.
The total decides the verdict.
-/

namespace SlopLint

/-- What an issue counts against. -/
inductive Axis where
  | utility
  | quality
  | style
deriving DecidableEq, Repr

def Axis.name : Axis → String
  | utility => "utility"
  | quality => "quality"
  | style => "style"

/-- The axis that the words in a rule's id decide. -/
def Axis.ofRule (ruleId : String) : Axis :=
  let id := ruleId.toList
  if Text.hasAny id ["hallucinated", "todo", "placeholder", "assumption"] then quality
  else if Text.hasAny id ["comment", "redundant", "boilerplate"] then utility
  else style

/-- The weights of the rules that weigh more than others. -/
def ruleWeights : List (String × Nat) := [
  ("hallucinated_react_import", 30), ("hallucinated_next_import", 30), ("any_type_usage", 15),
  ("unsafe_type_assertion", 12), ("unsafe_double_type_assertion", 12),
  ("overconfident_comment", 10), ("hedging_uncertainty_comment", 10),
  ("todo_implementation_placeholder", 12), ("assumption_comment", 11),
  ("redundant_self_explanatory_comment", 8), ("excessive_boilerplate_comment", 6),
  ("debug_log_with_comment", 5), ("unnecessary_iife_wrapper", 7), ("vibe_coded_ternary_abuse", 6)]

/-- The weight of every other rule. -/
def defaultWeight : Nat := 3

def ruleWeight (ruleId : String) : Nat :=
  (ruleWeights.lookup ruleId).getD defaultWeight

/-- A score: what the issues add up to on each axis. -/
structure Score where
  utility : Nat := 0
  quality : Nat := 0
  style : Nat := 0
deriving DecidableEq, Repr

namespace Score

/-- The sum over the axes. -/
def total (score : Score) : Nat :=
  score.utility + score.quality + score.style

/-- The score with a weight added on an axis. -/
def add (score : Score) (axis : Axis) (weight : Nat) : Score :=
  match axis with
  | .utility => { score with utility := score.utility + weight }
  | .quality => { score with quality := score.quality + weight }
  | .style => { score with style := score.style + weight }

def ofIssues (issues : List Issue) : Score :=
  issues.foldl (fun score issue => score.add (.ofRule issue.ruleId) (ruleWeight issue.ruleId)) {}

end Score

/-- What a score says about a code base. -/
inductive Verdict where
  | clean
  | acceptable
  | slopFed
deriving DecidableEq, Repr

def Verdict.name : Verdict → String
  | clean => "clean"
  | acceptable => "acceptable"
  | slopFed => "slop-fed"

/-- The largest total that is still acceptable. -/
def acceptableTotal : Nat := 50

def Score.verdict (score : Score) : Verdict :=
  if score.total = 0 then .clean
  else if acceptableTotal < score.total then .slopFed
  else .acceptable

end SlopLint
