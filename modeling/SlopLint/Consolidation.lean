import SlopLint.Finding

/-!
# Consolidation

Issues that agree in everything but their place are one entry with several locations. Entries
stand in the order in which their keys first appear, locations in the order of the issues.
-/

namespace SlopLint

/-- What the issues of one entry have in common. -/
structure IssueKey where
  ruleId : String
  file : String
  code : String
  message : String
  severity : String
deriving DecidableEq, Repr

def Issue.key (issue : Issue) : IssueKey :=
  ⟨issue.ruleId, issue.file, issue.code, issue.message, issue.severity⟩

/-- A key with the locations of its issues. -/
structure Consolidated where
  key : IssueKey
  locations : List String
deriving DecidableEq, Repr

/-- How many issues an entry stands for. -/
def Consolidated.occurrences (entry : Consolidated) : Nat :=
  entry.locations.length

/-- The values under their keys: keys in the order of their first appearance, the values of each
in their order. -/
def groupBy {α κ : Type} [BEq κ] (key : α → κ) (values : List α) : List (κ × List α) :=
  values.foldl (insert key) []
where
  /-- Adds a value behind those with its key, or as a new group at the end. -/
  insert (key : α → κ) (groups : List (κ × List α)) (value : α) : List (κ × List α) :=
    match groups with
    | [] => [(key value, [value])]
    | (k, members) :: rest =>
      if k == key value then (k, members ++ [value]) :: rest
      else (k, members) :: insert key rest value

def consolidate (issues : List Issue) : List Consolidated :=
  (groupBy Issue.key issues).map fun (key, members) => ⟨key, members.map Issue.location⟩

end SlopLint
