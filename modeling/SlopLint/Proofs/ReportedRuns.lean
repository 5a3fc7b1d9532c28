import SlopLint.Proofs.CommandRuns
import SlopLint.Proofs.FailingSteps
import SlopLint.Proofs.SummaryPrinting

/-!
# Runs that report

A run goes on behind a summary that is printed whole: it writes its report and ends with the exit
code of what it has found. A fault of the summary ends it without a report.
-/

namespace SlopLint

namespace CommandLine

open Console

variable [Library]

/-! ### What follows the summary -/

lemma tell_of_prints {outcome : Outcome} {items : List Item} (h : outcome.crash = none)
    (hitems : ∀ item ∈ items, item.Prints consoleWidth) : (outcome.tell items).crash = none := by
  have hfault := (print_fault_eq_none_iff consoleWidth items).mpr hitems
  unfold Outcome.tell
  rw [h]
  simp [printed, hfault]

lemma tree_tell (outcome : Outcome) (items : List Item) :
    (outcome.tell items).tree = outcome.tree := by
  unfold Outcome.tell
  split <;> rfl

lemma written_tell (outcome : Outcome) (items : List Item) :
    (outcome.tell items).written = outcome.written := by
  unfold Outcome.tell
  split <;> rfl

lemma files_conclude (outcome : Outcome) (arguments : Arguments) (scanned : Scanned) :
    (outcome.conclude arguments scanned).tree = outcome.tree ∧
      (outcome.conclude arguments scanned).written = outcome.written := by
  unfold Outcome.conclude
  dsimp only
  split
  · exact ⟨tree_tell _ _, written_tell _ _⟩
  · exact ⟨rfl, rfl⟩

lemma crash_conclude {outcome : Outcome} (arguments : Arguments) (scanned : Scanned)
    (h : outcome.crash = none) : (outcome.conclude arguments scanned).crash = none := by
  have hstrict (n : Nat) :
      (Item.marked s!"STRICT MODE: {n} CRITICAL issue(s) found. Blocking.").Prints consoleWidth :=
    Summary.count_prints n (by decide) (by decide)
  unfold Outcome.conclude
  dsimp only
  split
  · exact tell_of_prints h (List.forall_mem_singleton.mpr (hstrict _))
  · exact h

lemma crash_conclude_of_some {outcome : Outcome} {crash : Crash} (arguments : Arguments)
    (scanned : Scanned) (h : outcome.crash = some crash) :
    (outcome.conclude arguments scanned).crash = some crash := by
  unfold Outcome.conclude Outcome.tell
  dsimp only
  rw [h]
  split <;> exact h

lemma report_of_error {outcome : Outcome} {time : String} {destination : Destination}
    {detection : Detection} {fault : FileFault} (h : outcome.crash = none)
    (hwrite : destination.write outcome.tree time detection = .error fault) :
    (outcome.report time destination detection).crash = some (.file fault) := by
  unfold Outcome.report
  rw [h]
  dsimp only
  rw [hwrite]

/-- A report that can be written is written, and told of if markup leaves its path alone. -/
lemma report_of_ok {outcome : Outcome} {time : String} {destination : Destination}
    {detection : Detection} {tree : SourceTree} (h : outcome.crash = none)
    (hwrite : destination.write outcome.tree time detection = .ok tree) :
    (outcome.report time destination detection).tree = tree ∧
      (outcome.report time destination detection).written =
        outcome.written ++ [destination.path] ∧
      (Markup.Harmless (destination.shown destination.names).toList →
        (outcome.report time destination detection).crash = none) := by
  unfold Outcome.report
  rw [h]
  dsimp only
  rw [hwrite]
  refine ⟨tree_tell _ _, written_tell _ _, fun hpath => tell_of_prints rfl ?_⟩
  rw [List.forall_mem_singleton]
  apply prints_of_harmless
  rw [String.toList_append]
  exact Markup.Harmless.behind (by decide) hpath

/-- The exit code of a run that comes to its end. -/
def endCode (arguments : Arguments) (scanned : Scanned) : Nat :=
  if blocks arguments scanned then exitBlocked
  else if scanned.detection.issues.isEmpty then exitClean
  else exitIssues

lemma ends_of_crash {outcome : Outcome} (arguments : Arguments) (scanned : Scanned)
    (h : outcome.crash = none) : (outcome.conclude arguments scanned).crash = none ∧
      (outcome.conclude arguments scanned).exitCode = endCode arguments scanned := by
  have hcrash := crash_conclude arguments scanned h
  exact ⟨hcrash, exitCode_conclude hcrash⟩

/-- What is printed behind a scan. -/
def Scanned.summary (scanned : Scanned) (quiet : Bool) : Printed :=
  Console.print consoleWidth (Summary.items (some scanned.rules) quiet scanned.detection)

lemma crash_summarized (surroundings : Surroundings) (arguments : Arguments) (scanned : Scanned)
    (log : String) : (summarized surroundings arguments scanned log).crash =
      (scanned.summary (arguments.has .quiet)).fault.map Crash.markup :=
  rfl

section Scans

variable [Pattern.Platform] {surroundings : Surroundings} {words : List String}
  {arguments : Arguments} {root : Path} {scanned : Scanned}

lemma Scans.summary_fault (h : Scans surroundings words arguments root scanned)
    {custom : List CustomRule} {overrides : List (String × Severity)}
    (hbuild : RuleSet.build custom overrides = .ok scanned.rules)
    (hids : ∀ rule ∈ custom, Markup.Harmless rule.id.toList) :
    (scanned.summary (arguments.has .quiet)).fault = none := by
  obtain ⟨_, _, sources, _, _, hrules, _, _, hdetect⟩ := scanFolder_eq_ok h.folder_scanned
  have hscan : scanned.detection = .scan scanned.rules (arguments.has .quiet) sources := by
    rw [Detection.run, hrules] at hdetect
    exact (Except.ok.inj hdetect).symm
  unfold Scanned.summary
  rw [hscan]
  exact Summary.print_scan_of_harmless hbuild hids _ sources consoleWidth

lemma Scans.output_eq (h : Scans surroundings words arguments root scanned) :
    (run surroundings words).output =
      String.ofList (scanned.summary (arguments.has .quiet)).text := by
  obtain ⟨log, hrun⟩ := h.run_eq
  rw [hrun, output_conclude]
  split
  · exact String.empty_append
  · rw [output_report]
    exact String.empty_append

/-- What a run does behind its summary: it writes its report, unless it is not to, tells of it, and
ends with the exit code of what it has found. -/
structure GoesOn (surroundings : Surroundings) (arguments : Arguments) (root : Path)
    (scanned : Scanned) (outcome : Outcome) : Prop where
  silent : arguments.has .noReport = true →
    outcome.crash = none ∧ outcome.exitCode = endCode arguments scanned
  refused : arguments.has .noReport = false → ∀ fault,
    let place := destination surroundings root arguments
    place.write surroundings.tree surroundings.time scanned.detection = .error fault →
    outcome.crash = some (.file fault)
  written : arguments.has .noReport = false → ∀ tree,
    let place := destination surroundings root arguments
    place.write surroundings.tree surroundings.time scanned.detection = .ok tree →
    outcome.tree = tree ∧ outcome.written = [place.path] ∧
      (Markup.Harmless (place.shown place.names).toList →
        outcome.crash = none ∧ outcome.exitCode = endCode arguments scanned)

lemma Scans.goesOn (h : Scans surroundings words arguments root scanned)
    (hfault : (scanned.summary (arguments.has .quiet)).fault = none) :
    GoesOn surroundings arguments root scanned (run surroundings words) := by
  obtain ⟨log, hrun⟩ := h.run_eq
  have hcrash : (summarized surroundings arguments scanned log).crash = none := by
    rw [crash_summarized, hfault, Option.map_none]
  rw [hrun]
  constructor
  · intro hsilent
    rw [if_pos hsilent]
    exact ends_of_crash arguments scanned hcrash
  · intro hreports fault place hwrite
    rw [if_neg (by simp [hreports])]
    exact crash_conclude_of_some _ _ (report_of_error hcrash hwrite)
  · intro hreports tree place hwrite
    rw [if_neg (by simp [hreports])]
    obtain ⟨htree, hwritten, hends⟩ := report_of_ok hcrash hwrite
    obtain ⟨hkept, hlisted⟩ := files_conclude (Outcome.report _ surroundings.time place
      scanned.detection) arguments scanned
    refine ⟨hkept.trans htree, hlisted.trans hwritten, fun hpath => ?_⟩
    exact ends_of_crash arguments scanned (hends hpath)

/-- A fault of the summary ends a run without its report. -/
lemma Scans.stops (h : Scans surroundings words arguments root scanned) {fault : MarkupFault}
    (hfault : (scanned.summary (arguments.has .quiet)).fault = some fault) :
    (run surroundings words).crash = some (.markup fault) ∧
      (run surroundings words).written = [] ∧ (run surroundings words).exitCode = exitIssues := by
  obtain ⟨log, hrun⟩ := h.run_eq
  have hcrash : (summarized surroundings arguments scanned log).crash = some (.markup fault) := by
    rw [crash_summarized, hfault, Option.map_some]
  have hreport : (if arguments.has .noReport then summarized surroundings arguments scanned log
      else (summarized surroundings arguments scanned log).report surroundings.time
        (destination surroundings root arguments) scanned.detection) =
      summarized surroundings arguments scanned log := by
    split
    · rfl
    · unfold Outcome.report
      rw [hcrash]
  -- Neither the report nor the conclusion does anything after a crash.
  rw [hrun, hreport]
  refine ⟨crash_conclude_of_some _ _ hcrash, (files_conclude _ _ _).2, ?_⟩
  have hconcluded := crash_conclude_of_some arguments scanned hcrash
  unfold Outcome.conclude at hconcluded ⊢
  dsimp only at hconcluded ⊢
  rw [hconcluded]
  rfl

end Scans

end CommandLine

/-- The summary of a scan for accepted rules is printed whole exactly when none of its lines with the
ids of rules has a fault, and always if the ids of the user's own rules are harmless. A command that
has scanned its folder for such rules then goes on to its end; otherwise the fault ends it before
its report. -/
theorem summary_prints_of_harmless_ids [Pattern.Platform] [Console.Library]
    {custom : List CustomRule} {overrides : List (String × Severity)} {set : RuleSet}
    (hbuild : RuleSet.build custom overrides = .ok set) :
    (∀ quiet files width,
      let detection := Detection.scan set quiet files
      let printed := Console.print width (Summary.items (some set) quiet detection)
      (printed.fault = none ↔
        (∀ severity, ∀ group ∈ Summary.ruleGroups (detection.bySeverity severity),
          (Summary.nameItem group.1).Prints width) ∧
        ∀ entry ∈ (Summary.ranking Issue.ruleId detection.issues).take Summary.ruleCount,
          (Summary.rankItem entry).Prints width) ∧
      ((∀ rule ∈ custom, Console.Markup.Harmless rule.id.toList) → printed.fault = none)) ∧
    ∀ surroundings words arguments root scanned,
      CommandLine.Scans surroundings words arguments root scanned → scanned.rules = set →
      let outcome := CommandLine.run surroundings words
      let summary := scanned.summary (arguments.has .quiet)
      outcome.output = String.ofList summary.text ∧
      ((∀ rule ∈ custom, Console.Markup.Harmless rule.id.toList) → summary.fault = none) ∧
      (summary.fault = none →
        CommandLine.GoesOn surroundings arguments root scanned outcome) ∧
      ∀ fault, summary.fault = some fault → outcome.crash = some (.markup fault) ∧
        outcome.written = [] ∧ outcome.exitCode = CommandLine.exitIssues := by
  constructor
  · intro quiet files width detection printed
    refine ⟨?_, fun hids => Summary.print_scan_of_harmless hbuild hids quiet files width⟩
    exact (Console.print_fault_eq_none_iff width _).trans
      (Summary.items_print_iff _ quiet detection)
  · rintro surroundings words arguments root scanned h rfl
    exact ⟨h.output_eq, h.summary_fault hbuild, h.goesOn, fun _ => h.stops⟩

/-- A folder with one source and with settings that hold one rule for it, under the given id. -/
def treeWithRule (id : String) : SourceTree where
  files := [
    (["srv", ".slopguardrc"], Text.Utf8.encode
      ("\x7b\"customPatterns\": [\x7b\"id\": \"" ++ id ++ "\", \"pattern\": \"x\", " ++
        "\"message\": \"m\", \"severity\": \"low\"\x7d]\x7d").toList),
    (["srv", "a.ts"], Text.Utf8.encode "x".toList)]
  folders := []

/-- A command runs in this folder. -/
def besideRule (id : String) : CommandLine.Surroundings :=
  ⟨treeWithRule id, ["srv"], "now"⟩

lemma scans_besideRule [Pattern.Platform] {id : String} {scanned : CommandLine.Scanned}
    (hcheck : CommandLine.check (besideRule id) {} = .ok ["srv"])
    (h : (CommandLine.scanFolder (besideRule id) ["srv"] false).start.1 = .ok scanned) :
    CommandLine.Scans (besideRule id) [] {} ["srv"] scanned :=
  ⟨rfl, rfl, hcheck, h⟩

lemma write_besideRule (id time : String) (detection : Detection) :
    ∃ tree, (CommandLine.destination (besideRule id) ["srv"] {}).write (treeWithRule id) time
      detection = .ok tree :=
  ⟨_, rfl⟩

/-- Brackets in an id do no harm if they hold no tag. -/
theorem summary_prints_of_harmless_ids_indexed :
    letI := Pattern.Platform.withRoom 100
    letI := Console.Library.plain []
    ∃ custom overrides set arguments root scanned,
      RuleSet.build custom overrides = .ok set ∧
      CommandLine.Scans (besideRule "no[1]") [] arguments root scanned ∧
      scanned.rules = set ∧ custom.map CustomRule.id = ["no[1]"] ∧
      (CommandLine.run (besideRule "no[1]") []).written = [["srv", "ai-slop-report.json"]] ∧
      (CommandLine.run (besideRule "no[1]") []).exitCode =
        CommandLine.endCode arguments scanned := by
  let := Pattern.Platform.withRoom 100
  let := Console.Library.plain []
  have hfolder : (CommandLine.scanFolder (besideRule "no[1]") ["srv"]
      false).start.1.toOption.map (fun scanned =>
        ((scanned.settings.map Settings.customRules).getD []).map CustomRule.id) =
      some ["no[1]"] := by
    decide +kernel
  obtain ⟨scanned, hscan, hown⟩ := exists_of_toOption_map hfolder
  have hscans := scans_besideRule (by decide +kernel) hscan
  obtain ⟨_, _, _, _, _, hrules, _, _, _⟩ := CommandLine.scanFolder_eq_ok hscan
  have hbuild := build_of_rulesOf hrules
  have hids : ∀ rule ∈ (scanned.settings.map Settings.customRules).getD [],
      Console.Markup.Harmless rule.id.toList := by
    intro rule hrule
    have hid : rule.id ∈ ["no[1]"] := hown ▸ List.mem_map_of_mem hrule
    rw [List.mem_singleton.mp hid]
    decide
  obtain ⟨tree, htree⟩ := write_besideRule "no[1]" "now" scanned.detection
  obtain ⟨-, hprints, hgoes, -⟩ :=
    (summary_prints_of_harmless_ids hbuild).2 _ _ _ _ _ hscans rfl
  obtain ⟨-, hwritten, hends⟩ := (hgoes (hprints hids)).written rfl tree htree
  have hpath : Console.Markup.Harmless "/srv/ai-slop-report.json".toList := by decide
  exact ⟨_, _, _, {}, ["srv"], scanned, hbuild, hscans, rfl, hown, hwritten, (hends hpath).2⟩

/-- An id that closes a tag which is not open ends the run before the report is written. -/
theorem closing_id_loses_report :
    letI := Pattern.Platform.withRoom 100
    letI := Console.Library.plain []
    (∃ arguments root scanned,
      CommandLine.Scans (besideRule "[/x]") [] arguments root scanned) ∧
    (∃ fault, (CommandLine.run (besideRule "[/x]") []).crash = some (.markup fault)) ∧
    (CommandLine.run (besideRule "[/x]") []).written = [] := by
  let := Pattern.Platform.withRoom 100
  let := Console.Library.plain []
  have hgroups : (CommandLine.scanFolder (besideRule "[/x]") ["srv"]
      false).start.1.toOption.map (fun scanned =>
        (Summary.ruleGroups (scanned.detection.bySeverity .low)).map Prod.fst) =
      some ["[/x]"] := by
    decide +kernel
  have hname : (Console.Markup.renderOn CommandLine.consoleWidth
      "\n  Pattern: [bold][/x][/]".toList).toOption.isNone := by
    decide +kernel
  obtain ⟨scanned, hscan, hkeys⟩ := exists_of_toOption_map hgroups
  have hscans := scans_besideRule (by decide +kernel) hscan
  obtain ⟨⟨_, issues⟩, hmem, rfl⟩ := List.mem_map.mp (hkeys ▸ List.mem_singleton_self "[/x]")
  have hfault : (scanned.summary false).fault ≠ none := by
    intro hnone
    have hprints := (Console.print_fault_eq_none_iff _ _).mp hnone
    have hnamed := ((Summary.items_print_iff _ _ _).mp hprints).1 .low _ hmem
    exact Console.not_prints_of_isNone hname hnamed
  obtain ⟨fault, hfault⟩ := Option.ne_none_iff_exists'.mp hfault
  obtain ⟨hcrash, hwritten, -⟩ := hscans.stops hfault
  exact ⟨⟨{}, ["srv"], scanned, hscans⟩, ⟨fault, hcrash⟩, hwritten⟩

end SlopLint
