import SlopLint.Proofs.ReportedRuns
import SlopLint.Proofs.TreeWriting

/-!
# Files that runs write

A run changes one file at most, the one that its report goes to. A run that is refused has printed
nothing, and one that ends before its report is opened has changed no file. Every other run has
written its report.
-/

namespace SlopLint.CommandLine

lemma stop_keeps (outcome : Outcome) (stop : Stop) :
    (outcome.stop stop).tree = outcome.tree ∧
      (outcome.stop stop).written = outcome.written := by
  unfold Outcome.stop
  split <;> exact ⟨rfl, rfl⟩

variable [Console.Library]

/-- A report is not written after a crash, nor where its file cannot be opened. -/
lemma report_keeps {outcome : Outcome} {time : String} {destination : Destination}
    {detection : Detection}
    (h : outcome.crash.isSome ∨
      ∃ fault, destination.write outcome.tree time detection = .error fault) :
    (outcome.report time destination detection).tree = outcome.tree ∧
      (outcome.report time destination detection).written = outcome.written := by
  unfold Outcome.report
  cases hcrash : outcome.crash with
  | some crash => exact ⟨rfl, rfl⟩
  | none =>
    obtain ⟨fault, hwrite⟩ : ∃ fault,
        destination.write outcome.tree time detection = .error fault := by
      simpa [hcrash] using h
    dsimp only
    rw [hwrite]
    exact ⟨rfl, rfl⟩

variable [Pattern.Platform]

/-- The file that the report of a run goes to is the one asked for, or one in its folder. -/
def ReportsTo (surroundings : Surroundings) (words : List String) (path : Path) : Prop :=
  ∃ arguments root, Arguments.read words = .ok arguments ∧
    check surroundings arguments = .ok root ∧
    path = (destination surroundings root arguments).path

/-- A run that is refused, with what it tells last: its usage is wrong, its settings are invalid, or
its sources cannot be read. -/
inductive Refused (surroundings : Surroundings) (words : List String) : String → Prop
  | misread {fault : UsageFault} (hread : Arguments.read words = .error fault) :
    Refused surroundings words fault.text
  | unsuitable {arguments : Arguments} {fault : UsageFault}
    (hread : Arguments.read words = .ok arguments)
    (hasked : arguments.switches.find? (fun switch => switch == .version || switch == .help) = none)
    (hcheck : check surroundings arguments = .error fault) :
    Refused surroundings words fault.text
  | settings {arguments : Arguments} {root : Path} {why : Settings.Rejection}
    (hstarts : Starts surroundings words arguments root)
    (hstop : (scanFolder surroundings root (arguments.has .quiet)).start.1 =
      .error (.settings (.rejected why))) :
    Refused surroundings words s!"Error: Invalid configuration: {why.message}\n"
  | sources {arguments : Arguments} {root : Path} {fault : ReadFault}
    (hstarts : Starts surroundings words arguments root)
    (hstop : (scanFolder surroundings root (arguments.has .quiet)).start.1 =
      .error (.sources fault)) :
    Refused surroundings words s!"Error: Could not read sources: {fault.message}\n"

/-- The ways in which a run ends before its report is opened. -/
inductive Unreported (surroundings : Surroundings) (words : List String) : Prop
  | refused {message : String} (h : Refused surroundings words message)
  | answered {arguments : Arguments} {switch : Switch}
    (hread : Arguments.read words = .ok arguments)
    (hasked : arguments.switches.find? (fun switch => switch == .version || switch == .help) =
      some switch)
  | settingsCrash {arguments : Arguments} {root : Path} {fault : Settings.Fault}
    (hstarts : Starts surroundings words arguments root)
    (hstop : (scanFolder surroundings root (arguments.has .quiet)).start.1 =
      .error (.settings fault))
  | summaryCrash {arguments : Arguments} {root : Path} {scanned : Scanned}
    {fault : Console.MarkupFault} (hscans : Scans surroundings words arguments root scanned)
    (hfault : (scanned.summary (arguments.has .quiet)).fault = some fault)
  | reportCrash {arguments : Arguments} {root : Path} {scanned : Scanned} {fault : FileFault}
    (hscans : Scans surroundings words arguments root scanned)
    (hreports : arguments.has .noReport = false)
    (hsummary : (scanned.summary (arguments.has .quiet)).fault = none)
    (hwrite : (destination surroundings root arguments).write surroundings.tree surroundings.time
      scanned.detection = .error fault)
  | silent {arguments : Arguments} {root : Path} {scanned : Scanned}
    (hscans : Scans surroundings words arguments root scanned)
    (hsilent : arguments.has .noReport = true)

section Runs

variable {surroundings : Surroundings} {words : List String} {arguments : Arguments} {root : Path}
  {scanned : Scanned}

/-- A scan that stops ends the run, which has told nothing but its log. -/
lemma Starts.stops (h : Starts surroundings words arguments root) {stop : Stop}
    (hstop : (scanFolder surroundings root (arguments.has .quiet)).start.1 = .error stop) :
    run surroundings words =
      Outcome.stop
        { exitCode := exitIssues, errors := scanLog surroundings root arguments
          tree := surroundings.tree } stop := by
  unfold scanLog
  rcases hstart : (scanFolder surroundings root (arguments.has .quiet)).start with ⟨result, lines⟩
  have hresult : result = .error stop := by
    rw [← hstop, hstart]
  subst hresult
  rw [h.run_eq, runIn, hstart]

lemma run_of_misread {fault : UsageFault} (hread : Arguments.read words = .error fault) :
    run surroundings words =
      { exitCode := exitBlocked, errors := fault.text, tree := surroundings.tree } := by
  unfold run
  rw [hread]

lemma run_of_unsuitable {fault : UsageFault} (hread : Arguments.read words = .ok arguments)
    (hasked : arguments.switches.find? (fun switch => switch == .version || switch == .help) = none)
    (hcheck : check surroundings arguments = .error fault) :
    run surroundings words =
      { exitCode := exitBlocked, errors := fault.text, tree := surroundings.tree } := by
  unfold run
  rw [hread]
  dsimp only
  rw [hasked]
  dsimp only
  rw [hcheck]

lemma run_of_asked {switch : Switch} (hread : Arguments.read words = .ok arguments)
    (hasked : arguments.switches.find? (fun switch => switch == .version || switch == .help) =
      some switch) :
    run surroundings words =
      { exitCode := exitClean, tree := surroundings.tree
        output := if switch = .version then versionText else helpText } := by
  unfold run
  rw [hread]
  dsimp only
  rw [hasked]
  cases switch <;> rfl

/-- A refusal prints nothing, changes nothing, and is told of on the console of errors. -/
lemma Refused.run_keeps {message : String} (h : Refused surroundings words message) :
    (run surroundings words).output = "" ∧ (run surroundings words).tree = surroundings.tree ∧
      (run surroundings words).written = [] ∧ (run surroundings words).crash = none ∧
      ∃ log, (run surroundings words).errors = log ++ message := by
  cases h with
  | misread hread =>
    rw [run_of_misread hread]
    exact ⟨rfl, rfl, rfl, rfl, "", String.empty_append.symm⟩
  | unsuitable hread hasked hcheck =>
    rw [run_of_unsuitable hread hasked hcheck]
    exact ⟨rfl, rfl, rfl, rfl, "", String.empty_append.symm⟩
  | settings hstarts hstop =>
    rw [hstarts.stops hstop]
    exact ⟨rfl, rfl, rfl, rfl, _, rfl⟩
  | sources hstarts hstop =>
    rw [hstarts.stops hstop]
    exact ⟨rfl, rfl, rfl, rfl, _, rfl⟩

/-! ### What becomes of the files -/

lemma Scans.run_keeps (h : Scans surroundings words arguments root scanned)
    (hends : arguments.has .noReport = true ∨
      (scanned.summary (arguments.has .quiet)).fault.isSome ∨
      ∃ fault, (destination surroundings root arguments).write surroundings.tree surroundings.time
        scanned.detection = .error fault) :
    (run surroundings words).tree = surroundings.tree ∧ (run surroundings words).written = [] := by
  rw [h.run_eq_scanLog, (files_conclude _ _ _).1, (files_conclude _ _ _).2]
  split
  · exact ⟨rfl, rfl⟩
  · apply report_keeps
    rcases hends with hsilent | hfault | hwrite
    · contradiction
    · left
      rwa [crash_summarized, Option.isSome_map]
    · exact .inr hwrite

lemma Unreported.run_keeps (h : Unreported surroundings words) :
    (run surroundings words).tree = surroundings.tree ∧ (run surroundings words).written = [] := by
  cases h with
  | refused h => exact ⟨h.run_keeps.2.1, h.run_keeps.2.2.1⟩
  | answered hread hasked =>
    rw [run_of_asked hread hasked]
    exact ⟨rfl, rfl⟩
  | settingsCrash hstarts hstop =>
    rw [hstarts.stops hstop]
    exact stop_keeps _ _
  | summaryCrash hscans hfault => exact hscans.run_keeps (.inr (.inl (by rw [hfault]; rfl)))
  | reportCrash hscans _ _ hwrite => exact hscans.run_keeps (.inr (.inr ⟨_, hwrite⟩))
  | silent hscans hsilent => exact hscans.run_keeps (.inl hsilent)

/-- A run that ends in none of these ways has scanned its folder and can write its report. -/
lemma scans_of_not_unreported (h : ¬ Unreported surroundings words) :
    ∃ arguments root scanned tree, Scans surroundings words arguments root scanned ∧
      arguments.has .noReport = false ∧
      (scanned.summary (arguments.has .quiet)).fault = none ∧
      (destination surroundings root arguments).write surroundings.tree surroundings.time
        scanned.detection = .ok tree := by
  cases hread : Arguments.read words with
  | error fault => exact absurd (.refused (.misread hread)) h
  | ok arguments =>
  cases hasked : arguments.switches.find? fun switch => switch == .version || switch == .help with
  | some switch => exact absurd (.answered hread hasked) h
  | none =>
  cases hcheck : check surroundings arguments with
  | error fault => exact absurd (.refused (.unsuitable hread hasked hcheck)) h
  | ok root =>
  have hstarts : Starts surroundings words arguments root := ⟨hread, hasked, hcheck⟩
  cases hscan : (scanFolder surroundings root (arguments.has .quiet)).start.1 with
  | error stop =>
    cases stop with
    | settings fault => exact absurd (.settingsCrash hstarts hscan) h
    | sources fault => exact absurd (.refused (.sources hstarts hscan)) h
  | ok scanned =>
  have hscans : Scans surroundings words arguments root scanned := ⟨hread, hasked, hcheck, hscan⟩
  have hreports : arguments.has .noReport = false :=
    Bool.eq_false_iff.mpr fun hsilent => h (.silent hscans hsilent)
  cases hsummary : (scanned.summary (arguments.has .quiet)).fault with
  | some fault => exact absurd (.summaryCrash hscans hsummary) h
  | none =>
  cases hwrite : (destination surroundings root arguments).write surroundings.tree
      surroundings.time scanned.detection with
  | error fault => exact absurd (.reportCrash hscans hreports hsummary hwrite) h
  | ok tree => exact ⟨arguments, root, scanned, tree, hscans, hreports, hsummary, hwrite⟩

/-- A run that is not to report ends in one of them. -/
lemma unreported_of_silent (hread : Arguments.read words = .ok arguments)
    (hsilent : arguments.has .noReport = true) : Unreported surroundings words := by
  by_contra h
  obtain ⟨found, _, _, _, hscans, hreports, -⟩ := scans_of_not_unreported h
  obtain rfl : found = arguments := Except.ok.inj (hscans.words_read.symm.trans hread)
  rw [hsilent] at hreports
  cases hreports

/-- A run of any other kind writes its report, and that alone. -/
lemma reported_of_not_unreported (h : ¬ Unreported surroundings words) :
    ∃ (path : Path) (made : SourceTree) (report : Report), ReportsTo surroundings words path ∧
      made.files = surroundings.tree.files ∧
      (run surroundings words).tree =
        made.setFile path (Text.Utf8.encode (report.text surroundings.time).toList) ∧
      (run surroundings words).written = [path] := by
  obtain ⟨arguments, root, scanned, tree, hscans, hreports, hsummary, hwrite⟩ :=
    scans_of_not_unreported h
  obtain ⟨made, hmade, hset⟩ := SourceTree.writeFile_eq_ok hwrite
  obtain ⟨htree, hwritten, -⟩ := (hscans.goesOn hsummary).written hreports tree hwrite
  exact ⟨_, made, _, ⟨arguments, root, hscans.words_read, hscans.root_accepted, rfl⟩, hmade,
    htree.trans hset, hwritten⟩

/-- A run that has written nothing has left the tree as it was. -/
lemma tree_of_written_eq_nil (h : (run surroundings words).written = []) :
    (run surroundings words).tree = surroundings.tree := by
  by_cases hends : Unreported surroundings words
  · exact hends.run_keeps.1
  · obtain ⟨path, _, _, _, _, _, hwritten⟩ := reported_of_not_unreported hends
    rw [h] at hwritten
    cases hwritten

end Runs

/-- After a run every file is what it was, apart from the one that the report goes to. A run that is
refused has printed nothing and tells why; one that ends before its report is opened, or is not to
report, has changed no file. Every other run has written its report. -/
theorem run_changes_only_report (surroundings : Surroundings) (words : List String) :
    let outcome := run surroundings words
    (∀ path, ¬ ReportsTo surroundings words path →
      outcome.tree.file? path = surroundings.tree.file? path) ∧
    (∀ message, Refused surroundings words message →
      outcome.output = "" ∧ outcome.crash = none ∧ ∃ log, outcome.errors = log ++ message) ∧
    (Unreported surroundings words ∨
        (∃ arguments, Arguments.read words = .ok arguments ∧ arguments.has .noReport = true) →
      outcome.tree.files = surroundings.tree.files ∧ outcome.written = []) ∧
    (¬ Unreported surroundings words → ∃ path, ∃ report : Report,
      ReportsTo surroundings words path ∧ outcome.written = [path] ∧
      outcome.tree.file? path =
        some (Text.Utf8.encode (report.text surroundings.time).toList)) := by
  intro outcome
  refine ⟨fun path hother => ?_, fun message h => ?_, fun h => ?_, fun h => ?_⟩
  · by_cases h : Unreported surroundings words
    · rw [h.run_keeps.1]
    · obtain ⟨place, made, report, hreport, hmade, hset, -⟩ := reported_of_not_unreported h
      have hpath : path ≠ place := fun heq => hother (heq ▸ hreport)
      rw [hset, SourceTree.file?_setFile_of_ne _ _ hpath, SourceTree.file?, hmade]
      rfl
  · obtain ⟨houtput, -, -, hcrash, herrors⟩ := h.run_keeps
    exact ⟨houtput, hcrash, herrors⟩
  · have hends : Unreported surroundings words := by
      rcases h with h | ⟨arguments, hread, hsilent⟩
      · exact h
      · exact unreported_of_silent hread hsilent
    exact ⟨congrArg SourceTree.files hends.run_keeps.1, hends.run_keeps.2⟩
  · obtain ⟨place, made, report, hreport, -, hset, hwritten⟩ := reported_of_not_unreported h
    refine ⟨place, report, hreport, hwritten, ?_⟩
    rw [hset, SourceTree.file?_setFile_self]

end SlopLint.CommandLine
