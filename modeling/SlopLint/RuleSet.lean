import SlopLint.Rule.Builtin
import SlopLint.Settings.Reader

/-!
# Rule sets

The rules of a run: the built-in ones, then the user's own in their order, each with the severity
that the settings give it. No two rules of a set that is built from settings share an id.
-/

namespace SlopLint

/-- The rules of a run, in the order in which a line is searched for them. -/
structure RuleSet where
  rules : List Rule
deriving DecidableEq

namespace RuleSet

/-- The built-in rules alone. -/
def default : RuleSet := ⟨Rule.builtin⟩

def ids (set : RuleSet) : List String :=
  set.rules.map (·.id)

/-- Whether a rule with this id is in the set. -/
def contains (set : RuleSet) (id : String) : Bool :=
  set.ids.contains id

def get? (set : RuleSet) (id : String) : Option Rule :=
  set.rules.find? (·.id == id)

/-- The rule that a user's own rule stands for. -/
def ofCustom (custom : CustomRule) : Rule where
  id := custom.id
  pattern := custom.pattern
  message := custom.message
  severity := custom.severity
  description :=
    match custom.description with
    | some description => if description = "" then custom.message else description
    | none => custom.message
  fix := custom.fix
  learnMore := custom.learnMore

/-- The place and the id of the first rule whose id is already taken. -/
def duplicate? (taken : List String) (index : Nat) : List CustomRule → Option (Nat × String)
  | [] => none
  | rule :: rules =>
    if taken.contains rule.id then some (index, rule.id)
    else duplicate? (rule.id :: taken) (index + 1) rules

/-- The set with further rules behind its own; an id that is already taken refuses them all. -/
def extend (set : RuleSet) (custom : List CustomRule) : Except Settings.Fault RuleSet :=
  match duplicate? set.ids 0 custom with
  | some (index, id) => .error (.rejected (.duplicateRule index id))
  | none => .ok ⟨set.rules ++ custom.map ofCustom⟩

/-- The rule with the severity that is set for its id. -/
def overrideRule (overrides : List (String × Severity)) (rule : Rule) : Rule :=
  { rule with severity := (overrides.lookup rule.id).getD rule.severity }

/-- The set with the severities that are set for its rules; other ids have no effect. -/
def override (set : RuleSet) (overrides : List (String × Severity)) : RuleSet :=
  ⟨set.rules.map (overrideRule overrides)⟩

/-- The built-in rules extended and overridden. -/
def build (custom : List CustomRule) (overrides : List (String × Severity)) :
    Except Settings.Fault RuleSet := do
  pure ((← default.extend custom).override overrides)

/-- The rules of a run with these settings. -/
def ofSettings (settings : Settings) : Except Settings.Fault RuleSet :=
  build settings.customRules settings.severityOverrides

/-- The severities that a mapping sets, each of them checked. -/
def readOverrides (overrides : List (String × Json)) :
    Except Settings.Fault (List (String × Severity)) :=
  overrides.mapM fun (id, value) =>
    match value with
    | .string name =>
      match Severity.ofName? name with
      | some severity => .ok (id, severity)
      | none => .error (.rejected (.unknownSeverity id))
    | _ => .error (.rejected (.unknownSeverity id))

/-- The rule set of a list of rules and a mapping of severities that have not been checked. -/
def ofJson [Pattern.Platform] (custom : List Json) (overrides : List (String × Json)) :
    Except Settings.Fault RuleSet := do
  let set ← default.extend (← Settings.readRules custom)
  pure (set.override (← readOverrides overrides))

end RuleSet

end SlopLint
