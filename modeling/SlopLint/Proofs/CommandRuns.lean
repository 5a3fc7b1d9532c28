import Mathlib.Tactic.Lemma
import SlopLint.CommandLine.Run

/-!
# Runs of the command

What a scan of a folder gives can be taken apart without its log: the settings are those found in
the folder, the rules are built from them, and the detection is the one on the sources that were
read. What follows a scan leaves the summary on the console alone.
-/

namespace SlopLint.CommandLine

/-! ### Values of logged parts -/

/-- A part of a run gives a value, whatever it logs. -/
def Logged.Gives {α : Type} (part : Logged α) (value : α) : Prop :=
  ∃ before after, part.run.run before = (.ok value, after)

lemma gives_of_start {α : Type} {part : Logged α} {value : α} (h : part.start.1 = .ok value) :
    part.Gives value :=
  ⟨[], part.start.2, Prod.ext h rfl⟩

lemma eq_of_gives_pure {α : Type} {value result : α}
    (h : (pure value : Logged α).Gives result) : result = value := by
  obtain ⟨before, after, hrun⟩ := h
  cases hrun
  rfl

lemma not_gives_throw {α : Type} {stop : Stop} {result : α} :
    ¬ (throw stop : Logged α).Gives result := by
  rintro ⟨before, after, hrun⟩
  cases hrun

lemma run_bind {α β : Type} (part : Logged α) (next : α → Logged β) (before : List LogLine) :
    (part >>= next).run.run before =
      match part.run.run before with
      | (.ok value, middle) => (next value).run.run middle
      | (.error stop, middle) => (.error stop, middle) := by
  change (ExceptT.bindCont next (part.run.run before).1).run (part.run.run before).2 = _
  rcases part.run.run before with ⟨outcome, middle⟩
  cases outcome <;> rfl

/-- A part that goes on gives a value only after its first half has given one. -/
lemma gives_bind {α β : Type} {part : Logged α} {next : α → Logged β} {result : β}
    (h : (part >>= next).Gives result) : ∃ value, part.Gives value ∧ (next value).Gives result := by
  obtain ⟨before, after, hrun⟩ := h
  rw [run_bind] at hrun
  rcases hpart : part.run.run before with ⟨outcome, middle⟩
  rw [hpart] at hrun
  cases outcome with
  | ok value => exact ⟨value, ⟨before, middle, hpart⟩, middle, after, hrun⟩
  | error stop => cases hrun

/-! ### The parts of a scan -/

/-- Loading gives the settings that the folder holds, or none if it holds none. -/
lemma gives_loadSettings [Pattern.Platform] {tree : SourceTree} {root : Path}
    {settings : Option Settings}
    (h : (loadSettings tree root).Gives settings) :
    ∃ found, tree.loadSettings root = .ok found ∧ settings = found.map Prod.snd := by
  unfold loadSettings at h
  cases hload : tree.loadSettings root with
  | error fault =>
    rw [hload] at h
    cases fault <;> exact absurd h not_gives_throw
  | ok found =>
    refine ⟨found, rfl, ?_⟩
    rw [hload] at h
    cases found with
    | none => exact eq_of_gives_pure h
    | some entry =>
      obtain ⟨_, _, hrest⟩ := gives_bind h
      dsimp only at hrest
      split at hrest
      · obtain ⟨_, _, hlast⟩ := gives_bind hrest
        exact eq_of_gives_pure hlast
      · exact eq_of_gives_pure hrest

lemma gives_assembleRules {settings : Option Settings} {rules : RuleSet}
    (h : (assembleRules settings).Gives rules) : Detection.rulesOf settings = .ok rules := by
  cases settings with
  | none => rw [eq_of_gives_pure h]; rfl
  | some settings =>
    unfold assembleRules at h
    unfold Detection.rulesOf
    dsimp only at h ⊢
    cases hset : RuleSet.ofSettings settings with
    | error fault =>
      rw [hset] at h
      exact absurd h not_gives_throw
    | ok set =>
      rw [hset] at h
      dsimp only at h
      split at h
      · obtain ⟨_, _, hrest⟩ := gives_bind h
        obtain ⟨_, _, hlast⟩ := gives_bind hrest
        rw [eq_of_gives_pure hlast]
      · obtain ⟨_, _, hlast⟩ := gives_bind h
        rw [eq_of_gives_pure hlast]

lemma gives_selectFiles {tree : SourceTree} {root : Path} {quiet : Bool}
    {ignorePaths paths : List String}
    (h : (selectFiles tree root quiet ignorePaths).Gives paths) :
    (tree.discover root { ignorePaths }).map (SourceTree.keepCore quiet) = .ok paths := by
  unfold selectFiles at h
  cases hdiscover : tree.discover root { ignorePaths } with
  | error fault =>
    rw [hdiscover] at h
    exact absurd h not_gives_throw
  | ok found =>
    rw [hdiscover] at h
    obtain ⟨_, _, hlast⟩ := gives_bind h
    rw [eq_of_gives_pure hlast]
    rfl

lemma gives_scan {settings : Option Settings} {quiet : Bool} {sources : List SourceFile}
    {detection : Detection} (h : (scan settings quiet sources).Gives detection) :
    Detection.run settings quiet sources = .ok detection := by
  obtain ⟨rules, hrules, hrest⟩ := gives_bind h
  obtain ⟨_, _, hlog⟩ := gives_bind hrest
  obtain ⟨_, _, hlast⟩ := gives_bind hlog
  rw [Detection.run, gives_assembleRules hrules, eq_of_gives_pure hlast]
  simp only [List.flatMap_map]
  rfl

/-- The inversion of a scan: where settings, rules, sources and detection come from. -/
theorem scanFolder_eq_ok [Pattern.Platform] {surroundings : Surroundings} {root : Path}
    {quiet : Bool} {scanned : Scanned}
    (h : (scanFolder surroundings root quiet).start.1 = .ok scanned) :
    ∃ found paths sources,
      surroundings.tree.loadSettings root = .ok found ∧
      scanned.settings = found.map Prod.snd ∧
      Detection.rulesOf scanned.settings = .ok scanned.rules ∧
      (surroundings.tree.discover root
        { ignorePaths := (scanned.settings.map Settings.ignorePaths).getD [] }).map
          (SourceTree.keepCore quiet) = .ok paths ∧
      surroundings.tree.readSources root (Path.absolute root) paths = .ok sources ∧
      Detection.run scanned.settings quiet sources = .ok scanned.detection := by
  obtain ⟨settings, hsettings, hrest⟩ := gives_bind (gives_of_start h)
  obtain ⟨rules, hrules, hrest⟩ := gives_bind hrest
  obtain ⟨paths, hpaths, hrest⟩ := gives_bind hrest
  obtain ⟨found, hload, hfound⟩ := gives_loadSettings hsettings
  cases hsources : surroundings.tree.readSources root (Path.absolute root) paths with
  | error fault =>
    rw [hsources] at hrest
    exact absurd hrest not_gives_throw
  | ok sources =>
    rw [hsources] at hrest
    obtain ⟨detection, hscan, hlast⟩ := gives_bind hrest
    have hscanned := eq_of_gives_pure hlast
    subst hscanned
    exact ⟨found, paths, sources, hload, hfound, gives_assembleRules hrules,
      gives_selectFiles hpaths, hsources, gives_scan hscan⟩

/-! ### What follows a scan -/

variable [Console.Library]

/-- A command that is understood: its words are read, it does not ask for its version or for help,
and its folder is accepted. -/
structure Starts (surroundings : Surroundings) (words : List String) (arguments : Arguments)
    (root : Path) : Prop where
  words_read : Arguments.read words = .ok arguments
  nothing_asked : arguments.switches.find? (fun switch => switch == .version || switch == .help) =
    none
  root_accepted : check surroundings arguments = .ok root

lemma Starts.run_eq [Pattern.Platform] {surroundings : Surroundings} {words : List String}
    {arguments : Arguments} {root : Path} (h : Starts surroundings words arguments root) :
    run surroundings words = runIn surroundings root arguments := by
  unfold run
  rw [h.words_read]
  dsimp only
  rw [h.nothing_asked]
  dsimp only
  rw [h.root_accepted]

/-- A command that gets to what follows a scan: its words are read, it does not ask for its version
or for help, and its folder is accepted and scanned. -/
structure Scans [Pattern.Platform] (surroundings : Surroundings) (words : List String)
    (arguments : Arguments) (root : Path) (scanned : Scanned) : Prop where
  words_read : Arguments.read words = .ok arguments
  nothing_asked : arguments.switches.find? (fun switch => switch == .version || switch == .help) =
    none
  root_accepted : check surroundings arguments = .ok root
  folder_scanned : (scanFolder surroundings root (arguments.has .quiet)).start.1 = .ok scanned

/-- A run when its summary is printed; nothing but the log stands before the summary. -/
def summarized (surroundings : Surroundings) (arguments : Arguments) (scanned : Scanned)
    (log : String) : Outcome :=
  let started : Outcome := { exitCode := exitIssues, errors := log, tree := surroundings.tree }
  started.summarize (arguments.has .quiet) scanned

/-- What is shown of the log of a scan. -/
def scanLog [Pattern.Platform] (surroundings : Surroundings) (root : Path)
    (arguments : Arguments) : String :=
  logText (arguments.has .verbose) (scanFolder surroundings root (arguments.has .quiet)).start.2

/-- After the summary a run writes its report, unless it is not to, and comes to its conclusion. -/
lemma Scans.run_eq_scanLog [Pattern.Platform] {surroundings : Surroundings} {words : List String}
    {arguments : Arguments} {root : Path} {scanned : Scanned}
    (h : Scans surroundings words arguments root scanned) :
    run surroundings words =
      let summary := summarized surroundings arguments scanned (scanLog surroundings root arguments)
      Outcome.conclude
        (if arguments.has .noReport then summary
        else summary.report surroundings.time (destination surroundings root arguments)
          scanned.detection)
        arguments scanned := by
  have hrun : run surroundings words = runIn surroundings root arguments :=
    Starts.run_eq ⟨h.words_read, h.nothing_asked, h.root_accepted⟩
  unfold scanLog
  rcases hstart : (scanFolder surroundings root (arguments.has .quiet)).start with ⟨result, lines⟩
  have hresult : result = .ok scanned := by
    rw [← h.folder_scanned, hstart]
  subst hresult
  rw [hrun, runIn, hstart]
  rfl

lemma Scans.run_eq [Pattern.Platform] {surroundings : Surroundings} {words : List String}
    {arguments : Arguments} {root : Path} {scanned : Scanned}
    (h : Scans surroundings words arguments root scanned) :
    ∃ log, run surroundings words =
      Outcome.conclude
        (if arguments.has .noReport then summarized surroundings arguments scanned log
        else (summarized surroundings arguments scanned log).report surroundings.time
          (destination surroundings root arguments) scanned.detection)
        arguments scanned :=
  ⟨_, h.run_eq_scanLog⟩

lemma output_tell (outcome : Outcome) (items : List Console.Item) :
    (outcome.tell items).output = outcome.output := by
  unfold Outcome.tell
  split <;> rfl

lemma output_report (outcome : Outcome) (time : String) (destination : Destination)
    (detection : Detection) :
    (outcome.report time destination detection).output = outcome.output := by
  unfold Outcome.report
  split
  · rfl
  · split
    · rfl
    · rw [output_tell]

lemma output_conclude (outcome : Outcome) (arguments : Arguments) (scanned : Scanned) :
    (outcome.conclude arguments scanned).output = outcome.output := by
  unfold Outcome.conclude
  dsimp only
  split
  · exact output_tell _ _
  · rfl

/-- A run that ends by itself has the exit code of its findings. -/
lemma exitCode_conclude {outcome : Outcome} {arguments : Arguments} {scanned : Scanned}
    (h : (outcome.conclude arguments scanned).crash = none) :
    (outcome.conclude arguments scanned).exitCode =
      if blocks arguments scanned then exitBlocked
      else if scanned.detection.issues.isEmpty then exitClean
      else exitIssues := by
  unfold Outcome.conclude at h ⊢
  dsimp only at h ⊢
  rw [h]
  rfl

end SlopLint.CommandLine
