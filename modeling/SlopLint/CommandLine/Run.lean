import SlopLint.CommandLine.Arguments
import SlopLint.CommandLine.Log
import SlopLint.Report.Writing
import SlopLint.Settings.Loading
import SlopLint.SourceTree.Discovery
import SlopLint.Summary

/-!
# Running the command

The command scans the files below a folder of a source tree under the settings found there. It
prints a summary, writes a report, and tells by its exit code whether issues were found. Everything
it does is a function of the tree, the folder it runs in, and the command line.
-/

namespace SlopLint.CommandLine

variable [Pattern.Platform] [Console.Library]

/-- What a command runs on: the files from the root on, the folder that it runs in, and the time. -/
structure Surroundings where
  tree : SourceTree
  here : Path
  time : String

/-- A fault that no command tells of in its own words. -/
inductive Crash where
  | settings (fault : Settings.Fault)
  | markup (fault : Console.MarkupFault)
  | file (fault : FileFault)

def Crash.message : Crash → String
  | settings fault => fault.message
  | markup fault => fault.message
  | file fault => fault.message

/-- What a command leaves behind. -/
structure Outcome where
  exitCode : Nat
  output : String := ""
  errors : String := ""
  crash : Option Crash := none
  tree : SourceTree
  written : List Path := []

/-- The exit code of a run without issues. -/
def exitClean : Nat := 0

/-- The exit code of a run with issues, and of one that stops. -/
def exitIssues : Nat := 1

/-- The exit code of a run that blocks on critical issues, and of a command that is refused. -/
def exitBlocked : Nat := 2

def consoleWidth : Nat := 80

/-! ### Checking the arguments -/

/-- What is at a path as it is typed; a slash at its end asks for a folder. -/
def placeAt? (surroundings : Surroundings) (text : String) : Option SourceTree.Place :=
  let asksFolder := ["/", "/."].any fun ending => ending.toList.isSuffixOf text.toList
  let start := Path.start surroundings.here text
  if text = "" then none
  else
    match surroundings.tree.locate start (Path.names text) with
    | .ok (.folder path) => some (.folder path)
    | .ok (.file path content) => if asksFolder then none else some (.file path content)
    | .error _ => none

/-- The text of the folder to scan, the one that the command runs in if none is named. -/
def Arguments.root (arguments : Arguments) : String :=
  arguments.arguments.headD "."

/-- The folder that the arguments name. -/
def rootOf (surroundings : Surroundings) (arguments : Arguments) : Except UsageFault Path :=
  match placeAt? surroundings arguments.root with
  | some (.folder path) => .ok path
  | some (.file _ _) => .error (.rootIsFile arguments.root)
  | none => .error (.rootMissing arguments.root)

/-- Checks the arguments, the output first, and gives the folder to scan. -/
def check (surroundings : Surroundings) (arguments : Arguments) : Except UsageFault Path := do
  match arguments.output with
  | some text =>
    match placeAt? surroundings text with
    | some (.folder _) => throw (.outputIsFolder text)
    | _ => pure ()
  | none => pure ()
  let root ← rootOf surroundings arguments
  match arguments.arguments with
  | _ :: extra :: more => throw (.extraArguments (extra :: more))
  | _ => pure root

/-! ### Scanning -/

def loadSettings (tree : SourceTree) (root : Path) : Logged (Option Settings) := do
  match tree.loadSettings root with
  | .error (.read fault) => throw (.sources fault)
  | .error (.settings fault) => throw (.settings fault)
  | .ok none => pure none
  | .ok (some (name, settings)) =>
    log .info s!"Loaded config from {name}"
    if !settings.customRules.isEmpty then
      log .info s!"   added {settings.customRules.length} custom rule(s)"
    pure (some settings)

/-- The rules under given settings. -/
def assembleRules : Option Settings → Logged RuleSet
  | none => pure RuleSet.default
  | some settings => do
    match RuleSet.ofSettings settings with
    | .error fault => throw (.settings fault)
    | .ok rules =>
      let custom := settings.customRules.map CustomRule.id
      if !custom.isEmpty then
        log .detail s!"Added {custom.length} custom rule(s): {Text.literalList custom}"
      for (ruleId, _) in settings.severityOverrides do
        if !rules.contains ruleId then
          log .detail s!"Ignoring severity override for unknown rule {Text.literal ruleId}"
      pure rules

/-- The paths of the files to scan. -/
def selectFiles (tree : SourceTree) (root : Path) (quiet : Bool) (ignorePaths : List String) :
    Logged (List String) := do
  match tree.discover root { ignorePaths } with
  | .error fault => throw (.sources fault)
  | .ok found =>
    let selected := SourceTree.keepCore quiet found
    let mode := if quiet then "quiet" else "full"
    log .info s!"Found {found.length} files to analyze ({selected.length} in {mode} mode)"
    pure selected

def scan (settings : Option Settings) (quiet : Bool) (sources : List SourceFile) :
    Logged Detection := do
  let rules ← assembleRules settings
  let found := sources.map fun file =>
    (file.path, Scan.fileIssues rules quiet file.path file.content)
  for (path, issues) in found do
    log .detail s!"{path}: {issues.length} issue(s)"
  let detection := Detection.ofIssues (found.flatMap Prod.snd) sources.length
  let counts :=
    s!"{detection.issues.length} occurrence(s), {detection.consolidated.length} unique issue(s)"
  log .info s!"Scanned {sources.length} file(s): {counts}"
  pure detection

/-- What a scan gives: the settings it was made under, its rules, and what it found. -/
structure Scanned where
  settings : Option Settings
  rules : RuleSet
  detection : Detection

def scanFolder (surroundings : Surroundings) (root : Path) (quiet : Bool) : Logged Scanned := do
  let tree := surroundings.tree
  let settings ← loadSettings tree root
  let rules ← assembleRules settings
  let paths ← selectFiles tree root quiet ((settings.map Settings.ignorePaths).getD [])
  match tree.readSources root (Path.absolute root) paths with
  | .error fault => throw (.sources fault)
  | .ok sources => pure ⟨settings, rules, ← scan settings quiet sources⟩

/-! ### Reporting -/

/-- Where a report goes: the folder where its way starts, the names on this way, and how names are
told. -/
structure Destination where
  start : Path
  names : List String
  shown : List String → String

/-- The file that a report goes to. -/
def Destination.path (destination : Destination) : Path :=
  Path.follow destination.start destination.names

/-- Where the report of a run goes: the file asked for, or one in the folder that was scanned. -/
def destination (surroundings : Surroundings) (root : Path) (arguments : Arguments) :
    Destination :=
  match arguments.output with
  | some text =>
    ⟨Path.start surroundings.here text, Path.names text, Path.shown (Path.front text)⟩
  | none => ⟨root, [Report.defaultName], fun names => Path.absolute (root ++ names)⟩

/-- The tree with a report at its destination. -/
def Destination.write (destination : Destination) (tree : SourceTree) (time : String)
    (detection : Detection) : Except FileFault SourceTree :=
  tree.writeReport destination.start destination.shown destination.names time
    (Report.ofDetection detection)

/-- The text of a printed item with its fault as a crash. -/
def printed (items : List Console.Item) : String × Option Crash :=
  let printed := Console.print consoleWidth items
  (String.ofList printed.text, printed.fault.map Crash.markup)

/-- Prints items on the console of errors. -/
def Outcome.tell (outcome : Outcome) (items : List Console.Item) : Outcome :=
  match outcome.crash with
  | some _ => outcome
  | none =>
    let (text, crash) := printed items
    { outcome with errors := outcome.errors ++ text, crash }

def Outcome.summarize (outcome : Outcome) (quiet : Bool) (scanned : Scanned) : Outcome :=
  let (text, crash) := printed (Summary.items (some scanned.rules) quiet scanned.detection)
  { outcome with output := outcome.output ++ text, crash }

def Outcome.report (outcome : Outcome) (time : String) (destination : Destination)
    (detection : Detection) : Outcome :=
  match outcome.crash with
  | some _ => outcome
  | none =>
    match destination.write outcome.tree time detection with
    | .error fault => { outcome with crash := some (.file fault) }
    | .ok tree =>
      { outcome with tree, written := outcome.written ++ [destination.path] }.tell
        [.marked s!"Results exported to: {destination.shown destination.names}"]

def blocks (arguments : Arguments) (scanned : Scanned) : Bool :=
  (arguments.has .strict || (scanned.settings.map Settings.strict).getD false) &&
    scanned.detection.hasCritical

def Outcome.conclude (outcome : Outcome) (arguments : Arguments) (scanned : Scanned) : Outcome :=
  let count := (scanned.detection.bySeverity .critical).length
  let outcome :=
    if blocks arguments scanned then
      outcome.tell [.marked s!"STRICT MODE: {count} CRITICAL issue(s) found. Blocking."]
    else outcome
  let code :=
    if outcome.crash.isSome then exitIssues
    else if blocks arguments scanned then exitBlocked
    else if scanned.detection.issues.isEmpty then exitClean
    else exitIssues
  { outcome with exitCode := code }

/-- What a run leaves behind that stops before anything is scanned. -/
def Outcome.stop (outcome : Outcome) : Stop → Outcome
  | .settings (.rejected why) =>
    { outcome with
      errors := outcome.errors ++ s!"Error: Invalid configuration: {why.message}\n" }
  | .settings fault => { outcome with crash := some (.settings fault) }
  | .sources fault =>
    { outcome with
      errors := outcome.errors ++ s!"Error: Could not read sources: {fault.message}\n" }

def runIn (surroundings : Surroundings) (root : Path) (arguments : Arguments) : Outcome :=
  let quiet := arguments.has .quiet
  let (result, lines) := (scanFolder surroundings root quiet).start
  let outcome : Outcome :=
    { exitCode := exitIssues, errors := logText (arguments.has .verbose) lines
      tree := surroundings.tree }
  match result with
  | .error stop => outcome.stop stop
  | .ok scanned =>
    let outcome := outcome.summarize quiet scanned
    let outcome :=
      if arguments.has .noReport then outcome
      else
        outcome.report surroundings.time (destination surroundings root arguments)
          scanned.detection
    outcome.conclude arguments scanned

/-- Runs the command with the words of its command line. -/
def run (surroundings : Surroundings) (words : List String) : Outcome :=
  let refuse (fault : UsageFault) : Outcome :=
    { exitCode := exitBlocked, errors := fault.text, tree := surroundings.tree }
  let answer (text : String) : Outcome :=
    { exitCode := exitClean, output := text, tree := surroundings.tree }
  match Arguments.read words with
  | .error fault => refuse fault
  | .ok arguments =>
    match arguments.switches.find? fun switch => switch == .version || switch == .help with
    | some .version => answer versionText
    | some _ => answer helpText
    | none =>
      match check surroundings arguments with
      | .error fault => refuse fault
      | .ok root => runIn surroundings root arguments

end SlopLint.CommandLine
