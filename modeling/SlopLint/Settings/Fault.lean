import SlopLint.Json.Fault
import SlopLint.Pattern.Fault
import SlopLint.Severity
import SlopLint.Text.Quoted

/-!
# Faults of settings

Settings are refused as a whole at their first fault. A fault is told with the path of the field
it was found in; inside a list of rules the offending rule is named by its id.
-/

namespace SlopLint.Settings

/-- A step on the way to a field: a name, or a place in a list. -/
inductive Step where
  | name (name : String)
  | index (i : Nat)

/-- A path as text: names are joined by points, places stand in brackets. -/
def pathText (path : List Step) : String :=
  path.foldl (fun text step =>
    match step with
    | .index i => text ++ s!"[{i}]"
    | .name name => if text = "" then name else text ++ "." ++ name) ""

/-- Where a fault was found: the way to the entry, the id of the entry if it is a rule that has
one, and the way from the entry to the field. -/
structure Location where
  entry : List Step
  ruleId : Option Json := none
  field : List Step := []

def Location.text (location : Location) : String :=
  match location.ruleId with
  | none => pathText (location.entry ++ location.field)
  | some id =>
    let rest := pathText location.field
    s!"{pathText location.entry} (id={Text.valueLiteral id})" ++
      if rest = "" then "" else "." ++ rest

/-- What is wrong with a field. -/
inductive Problem where
  | missing
  | unknown
  | notString
  | emptyString
  | notSeverity
  | notList
  | notDictionary
  | notRule
  | notBoolean
  | unreadableBoolean
  | malformedPattern (source : String) (cause : Pattern.Cause) (left : Option Nat)
  | bothAlphabets
  | numberTooLong (digits : Nat)

def Problem.text : Problem → String
  | missing => "Field required"
  | unknown => "Extra inputs are not permitted"
  | notString => "Input should be a valid string"
  | emptyString => "String should have at least 1 character"
  | notSeverity => "Input should be 'critical', 'high', 'medium' or 'low'"
  | notList => "Input should be a valid list"
  | notDictionary => "Input should be a valid dictionary"
  | notRule => "Input should be a valid dictionary or instance of CustomRuleConfig"
  | notBoolean => "Input should be a valid boolean"
  | unreadableBoolean => "Input should be a valid boolean, unable to interpret input"
  | malformedPattern source cause left =>
    s!"is not a valid regex: {source} ({cause.message left source.toList})"
  | bothAlphabets => "ASCII and UNICODE flags are incompatible"
  | numberTooLong digits => (Json.Cause.integerTooLong digits).text

/-- Why settings are refused. -/
inductive Rejection where
  | notAnObject
  | field (location : Location) (problem : Problem)
  | duplicateRule (index : Nat) (id : String)
  | unknownSeverity (ruleId : String)
  | malformedFile (name : String) (fault : Json.Fault) (text : List Char)

def Rejection.message : Rejection → String
  | notAnObject => "Config must be an object"
  | field location problem =>
    if location.text = "" then problem.text else s!"{location.text}: {problem.text}"
  | duplicateRule index id =>
    let entry : Location := ⟨[.name "customPatterns", .index index], some (.string id), [.name "id"]⟩
    s!"{entry.text}: duplicates an existing rule id"
  | unknownSeverity ruleId =>
    let names := ", ".intercalate (Severity.all.map Severity.name)
    s!"severityOverrides.{ruleId} must be one of: {names}"
  | malformedFile name fault text => s!"{name}: invalid JSON ({fault.message text})"

/-- Why reading settings fails: they are refused, or a pattern goes beyond a limit and cannot be
read at all, or a file holds a number too long to be read. -/
inductive Fault where
  | rejected (why : Rejection)
  | beyond (limit : Pattern.Limit)
  | integerTooLong (digits : Nat)

def Fault.message : Fault → String
  | rejected why => why.message
  | beyond limit => limit.message
  | integerTooLong digits => (Json.Cause.integerTooLong digits).text

end SlopLint.Settings
