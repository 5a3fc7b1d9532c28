import SlopLint.Json.Reader
import SlopLint.Pattern.Reader
import SlopLint.Settings.Basic
import SlopLint.Settings.Fault

/-!
# Reading settings

Settings are read from a JSON value. Every field goes by several names; the first of them that is
present counts, and the others are unknown fields. Rules are checked before everything else, in
whatever list they stand; then the fields in their order; then unknown fields in the order of the
input.
-/

namespace SlopLint.Settings

variable [Pattern.Platform]

def refuse {α : Type} (location : Location) (problem : Problem) : Except Fault α :=
  .error (.rejected (.field location problem))

/-- The value of the first of the names that is present, with that name. -/
def field? (members : List (String × Json)) (names : List String) : Option (String × Json) :=
  names.findSome? fun name => (Json.member? members name).map fun value => (name, value)

def readString (location : Location) : Json → Except Fault String
  | .string s => .ok s
  | _ => refuse location .notString

def readNonempty (location : Location) (value : Json) : Except Fault String := do
  let s ← readString location value
  if s = "" then refuse location .emptyString else pure s

def readOptional (location : Location) : Option Json → Except Fault (Option String)
  | none | some .null => .ok none
  | some value => do pure (some (← readString location value))

def readSeverity (location : Location) : Json → Except Fault Severity
  | .string s =>
    match Severity.ofName? s with
    | some severity => .ok severity
    | none => refuse location .notSeverity
  | _ => refuse location .notSeverity

/-- The flags of a custom pattern: case does not count. -/
def patternFlags : Pattern.Flags := { ignoreCase := true }

def readPattern (location : Location) (value : Json) : Except Fault Pattern := do
  let source ← readNonempty location value
  match Pattern.read patternFlags source with
  | .ok pattern => pure pattern
  | .error (.malformed cause left) => refuse location (.malformedPattern source cause left)
  | .error (.numberTooLong digits) => refuse location (.numberTooLong digits)
  | .error .bothAlphabets => refuse location .bothAlphabets
  | .error (.beyond limit) => .error (.beyond limit)

/-- The words that stand for a truth value, in lower case. -/
def truthWords : List (String × Bool) := [
  ("true", true), ("t", true), ("yes", true), ("y", true), ("on", true), ("1", true),
  ("false", false), ("f", false), ("no", false), ("n", false), ("off", false), ("0", false)]

/-- Whole numbers of a machine word lie between this bound and its negative. -/
def wordBound : Int := 9223372036854775808

/-- A truth value from a whole number, which must fit into 64 bits. -/
def truthOfInt (location : Location) (n : Int) : Except Fault Bool :=
  if n = 0 then .ok false
  else if n = 1 then .ok true
  else if -wordBound ≤ n ∧ n < wordBound then refuse location .unreadableBoolean
  else refuse location .notBoolean

/-- A truth value: the two values themselves, zero and one, or a word, case not counting. -/
def readBool (location : Location) : Json → Except Fault Bool
  | .bool b => .ok b
  | .int n => truthOfInt location n
  | .double d =>
    match d.toInt? with
    | some n => truthOfInt location n
    | none => refuse location .notBoolean
  | .string s =>
    match truthWords.lookup (String.ofList (s.toList.map Char.toLower)) with
    | some b => .ok b
    | none => refuse location .unreadableBoolean
  | _ => refuse location .notBoolean

/-- The names of the fields of a rule, in their order. -/
def ruleFields : List (List String) := [
  ["id"], ["pattern"], ["message"], ["severity"], ["description"], ["fix"],
  ["learnMore", "learn_more"]]

/-- The names of the fields of the settings, in their order. -/
def settingsFields : List (List String) := [
  ["custom_rules", "customPatterns", "customRules"], ["severity_overrides", "severityOverrides"],
  ["ignore_paths", "ignorePaths"], ["strict", "blockOnCritical"]]

/-- Refuses the first member that no field takes; of the names of a field only the first present
one is taken. -/
def refuseUnknown (location : String → Location) (fields : List (List String))
    (members : List (String × Json)) : Except Fault Unit :=
  let taken := fields.filterMap fun names => (field? members names).map (·.1)
  match members.find? fun member => !taken.contains member.1 with
  | some member => refuse (location member.1) .unknown
  | none => .ok ()

/-- A required field of a rule. -/
def required (members : List (String × Json)) (location : String → Location) (name : String) :
    Except Fault Json :=
  match Json.member? members name with
  | some value => .ok value
  | none => refuse (location name) .missing

/-- The id that names a rule in messages: whatever stands there, unless it counts as absent. -/
def shownId? (members : List (String × Json)) : Option Json :=
  (Json.member? members "id").filter Json.isTruthy

/-- The limit that the pattern of a rule goes beyond. -/
def limit? (members : List (String × Json)) : Option Pattern.Limit :=
  match Json.member? members "pattern" with
  | some (.string source) =>
    match Pattern.read patternFlags source with
    | .error (.beyond limit) => some limit
    | _ => none
  | _ => none

/-- The rule at a place of a list of rules. -/
def readRule (index : Nat) (value : Json) : Except Fault CustomRule :=
  let entry := [Step.name "customPatterns", Step.index index]
  match value with
  | .object members => do
    let location (name : String) : Location := ⟨entry, shownId? members, [.name name]⟩
    match limit? members with
    | some limit => .error (.beyond limit)
    | none =>
      let id ← readNonempty (location "id") (← required members location "id")
      let pattern ← readPattern (location "pattern") (← required members location "pattern")
      let message ← readNonempty (location "message") (← required members location "message")
      let severity ← readSeverity (location "severity") (← required members location "severity")
      let description ← readOptional (location "description") (Json.member? members "description")
      let fix ← readOptional (location "fix") (Json.member? members "fix")
      let link := field? members ["learnMore", "learn_more"]
      let linkName := (link.map (·.1)).getD "learnMore"
      let learnMore ← readOptional (location linkName) (link.map (·.2))
      refuseUnknown location ruleFields members
      pure { id, pattern, message, severity, description, fix, learnMore }
  | _ => refuse { entry } .notRule

/-- The rules of a list; the first bad one refuses them all. -/
def readRulesFrom (index : Nat) : List Json → Except Fault (List CustomRule)
  | [] => .ok []
  | value :: values => do
    let rule ← readRule index value
    let rules ← readRulesFrom (index + 1) values
    pure (rule :: rules)

def readRules (values : List Json) : Except Fault (List CustomRule) :=
  readRulesFrom 0 values

def readCustomRules (members : List (String × Json)) : Except Fault (List CustomRule) :=
  match field? members ["custom_rules", "customPatterns", "customRules"] with
  | none => .ok []
  | some (_, .array values) => readRules values
  | some (name, _) => refuse { entry := [.name name] } .notList

/-- The severities of the settings that replace those of rules. -/
def readOverrides (members : List (String × Json)) : Except Fault (List (String × Severity)) :=
  match field? members ["severity_overrides", "severityOverrides"] with
  | none => .ok []
  | some (name, .object overrides) =>
    overrides.mapM fun (id, value) => do
      pure (id, ← readSeverity { entry := [.name name, .name id] } value)
  | some (name, _) => refuse { entry := [.name name] } .notDictionary

/-- The id that a member of a list shows when it is a rule by mistake. -/
def strayId? : Json → Option Json
  | .object members => shownId? members
  | _ => none

/-- The texts of a list; `index` is the place of the first one. -/
def readTexts (name : String) (index : Nat) : List Json → Except Fault (List String)
  | [] => .ok []
  | value :: values => do
    let text ← readString ⟨[.name name, .index index], strayId? value, []⟩ value
    let texts ← readTexts name (index + 1) values
    pure (text :: texts)

/-- The files that the settings leave out. -/
def readIgnorePaths (members : List (String × Json)) : Except Fault (List String) :=
  match field? members ["ignore_paths", "ignorePaths"] with
  | none => .ok []
  | some (name, .array values) => readTexts name 0 values
  | some (name, _) => refuse { entry := [.name name] } .notList

/-- Whether critical findings block. -/
def readStrict (members : List (String × Json)) : Except Fault Bool :=
  match field? members ["strict", "blockOnCritical"] with
  | none => .ok false
  | some (name, value) => readBool { entry := [.name name] } value

/-- Checks every list of rules, whichever name it goes by. -/
def checkRuleLists (members : List (String × Json)) : Except Fault Unit :=
  ["custom_rules", "customPatterns", "customRules"].forM fun name =>
    match Json.member? members name with
    | some (.array values) => do
      let _ ← readRules values
      pure ()
    | _ => .ok ()

end Settings

/-- The settings that a value denotes. -/
def Settings.ofJson [Pattern.Platform] (value : Json) : Except Settings.Fault Settings :=
  match value with
  | .object members => do
    Settings.checkRuleLists members
    let customRules ← Settings.readCustomRules members
    let severityOverrides ← Settings.readOverrides members
    let ignorePaths ← Settings.readIgnorePaths members
    let strict ← Settings.readStrict members
    Settings.refuseUnknown (fun name => { entry := [.name name] }) Settings.settingsFields members
    pure { customRules, severityOverrides, ignorePaths, strict }
  | _ => .error (.rejected .notAnObject)

end SlopLint
