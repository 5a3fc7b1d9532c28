/-!
# Severities

How much a finding matters, from critical down to low.
-/

namespace SlopLint

/-- How much a finding matters. -/
inductive Severity where
  | critical
  | high
  | medium
  | low
deriving DecidableEq, Repr

namespace Severity

/-- All severities, the gravest first. -/
def all : List Severity := [critical, high, medium, low]

/-- The name of a severity, as settings and reports write it. -/
def name : Severity → String
  | critical => "critical"
  | high => "high"
  | medium => "medium"
  | low => "low"

def ofName? (name : String) : Option Severity :=
  all.find? (·.name == name)

theorem mem_all (s : Severity) : s ∈ all := by
  cases s <;> simp [all]

theorem name_injective {s t : Severity} (h : s.name = t.name) : s = t := by
  revert h
  cases s <;> cases t <;> decide

theorem ofName?_name (s : Severity) : ofName? s.name = some s := by
  cases s <;> decide

end Severity

end SlopLint
