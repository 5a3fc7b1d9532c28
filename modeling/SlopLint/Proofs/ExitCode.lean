import SlopLint.Proofs.CommandRuns
import SlopLint.Proofs.FailingSteps
import SlopLint.Proofs.ReportTotals

/-!
# Exit codes

A command that completes tells the same thing three times: by its exit code, by the report on what
it found, and by the summary on the console. Strictness, the weights of the rules and the four
severities are where they could come apart.
-/

namespace SlopLint

/-! ### Counts of a report -/

/-- The number of findings of a severity that a report tells. -/
def Report.count (report : Report) (severity : Severity) : Nat :=
  (report.bySeverity.lookup severity).getD 0

lemma count_ofDetection (issues : List Issue) (filesScanned : Nat) (severity : Severity) :
    (Report.ofDetection (.ofIssues issues filesScanned)).count severity =
      issues.countP fun issue => issue.severity == severity.name := by
  have h := occurrences_filter_consolidate (fun key => key.severity == severity.name) issues
  refine Eq.trans ?_ h
  cases severity <;> rfl

lemma hasCritical_iff (issues : List Issue) (filesScanned : Nat) :
    (Detection.ofIssues issues filesScanned).hasCritical = true ↔
      0 < (Report.ofDetection (.ofIssues issues filesScanned)).count .critical := by
  rw [count_ofDetection, List.countP_pos_iff]
  exact List.any_eq_true

/-! ### The branch without issues -/

/-- What the console shows of a run that has found nothing. -/
def Summary.cleanItems (score : Score) : List Console.Item :=
  .marked "AI Slop Detection Report" :: .marked "No AI slop issues detected!" ::
    Summary.scoreItems score

lemma items_eq_cleanItems_iff (rules : Option RuleSet) (quiet : Bool) (detection : Detection) :
    Summary.items rules quiet detection = Summary.cleanItems detection.score ↔
      detection.issues = [] := by
  cases hissues : detection.issues with
  | nil => simp [Summary.items, Summary.cleanItems, hissues]
  | cons issue issues => simp [Summary.items, Summary.cleanItems, Summary.issueItems, hissues]

/-- The table of findings is shown exactly when there are findings. -/
lemma severityTable_mem_items_iff (rules : Option RuleSet) (quiet : Bool) (detection : Detection) :
    .table (Summary.severityTable detection) ∈ Summary.items rules quiet detection ↔
      detection.issues ≠ [] := by
  cases hissues : detection.issues with
  | nil =>
    simp [Summary.items, hissues, Summary.scoreItems, Summary.severityTable, Summary.scoreTable]
  | cons issue issues => simp [Summary.items, Summary.issueItems, hissues]

namespace CommandLine

/-! ### Commands that complete -/

/-- A command that gets to its exit: its words are read, it does not ask for its version or for
help, a folder is accepted and scanned, and nothing fails after that. -/
structure Completes [Pattern.Platform] [Console.Library] (surroundings : Surroundings)
    (words : List String) (arguments : Arguments) (root : Path) (scanned : Scanned) : Prop where
  words_read : Arguments.read words = .ok arguments
  nothing_asked : arguments.switches.find? (fun switch => switch == .version || switch == .help) =
    none
  root_accepted : check surroundings arguments = .ok root
  folder_scanned : (scanFolder surroundings root (arguments.has .quiet)).start.1 = .ok scanned
  not_crashed : (run surroundings words).crash = none

/-- Whether critical findings should block: on demand, or by the settings of the folder. -/
def IsStrict [Pattern.Platform] (surroundings : Surroundings) (arguments : Arguments)
    (root : Path) : Prop :=
  arguments.has .strict = true ∨
    ∃ name settings, surroundings.tree.loadSettings root = .ok (some (name, settings)) ∧
      settings.strict = true

section Completes

variable [Pattern.Platform] [Console.Library] {surroundings : Surroundings} {words : List String}
  {arguments : Arguments} {root : Path} {scanned : Scanned}

lemma Completes.scans (h : Completes surroundings words arguments root scanned) :
    Scans surroundings words arguments root scanned :=
  ⟨h.words_read, h.nothing_asked, h.root_accepted, h.folder_scanned⟩

/-- A command that completes ends with the conclusion of a run that has printed its summary. -/
lemma Completes.run_eq (h : Completes surroundings words arguments root scanned) :
    ∃ before : Outcome, run surroundings words = before.conclude arguments scanned ∧
      before.output =
        (printed (Summary.items (some scanned.rules) (arguments.has .quiet)
          scanned.detection)).1 := by
  obtain ⟨log, hrun⟩ := h.scans.run_eq
  refine ⟨_, hrun, ?_⟩
  split
  · exact String.empty_append
  · rw [output_report]
    exact String.empty_append

lemma blocks_iff (h : Completes surroundings words arguments root scanned) :
    blocks arguments scanned = true ↔
      IsStrict surroundings arguments root ∧ scanned.detection.hasCritical = true := by
  obtain ⟨found, _, _, hload, hsettings, _⟩ := scanFolder_eq_ok h.folder_scanned
  unfold blocks IsStrict
  rw [hsettings, hload, Bool.and_eq_true, Bool.or_eq_true]
  cases found with
  | none => simp
  | some entry =>
    obtain ⟨name, settings⟩ := entry
    simp

/-- Exit code, report and console agree on whether there are findings, and on whether critical
ones block. -/
theorem exitCode_agrees_with_report (h : Completes surroundings words arguments root scanned) :
    let outcome := run surroundings words
    let report := Report.ofDetection scanned.detection
    let items := Summary.items (some scanned.rules) (arguments.has .quiet) scanned.detection
    (outcome.exitCode = 2 ↔ IsStrict surroundings arguments root ∧ 0 < report.count .critical) ∧
    (outcome.exitCode = 0 ↔ report.totalOccurrences = 0) ∧
    (report.totalOccurrences = 0 ↔ report.score.total = 0) ∧
    (report.totalOccurrences = 0 ↔ report.verdict = .clean) ∧
    (report.totalOccurrences = 0 ↔ items = Summary.cleanItems report.score) ∧
    (report.totalOccurrences = 0 ↔
      .table (Summary.severityTable scanned.detection) ∉ items) ∧
    (outcome.exitCode ≠ 2 → outcome.exitCode ≠ 0 → outcome.exitCode = 1) ∧
    outcome.output = String.ofList (Console.print consoleWidth items).text := by
  obtain ⟨before, hrun, houtput⟩ := h.run_eq
  obtain ⟨_, _, sources, _, _, _, _, _, hdetect⟩ := scanFolder_eq_ok h.folder_scanned
  obtain ⟨set, _, hscan⟩ := run_eq_ok hdetect
  have hcritical : scanned.detection.hasCritical = true ↔
      0 < (Report.ofDetection scanned.detection).count .critical := by
    rw [hscan]
    exact hasCritical_iff _ _
  have htotal : (Report.ofDetection scanned.detection).totalOccurrences = 0 ↔
      scanned.detection.issues = [] := by
    rw [hscan, ← List.length_eq_zero_iff]
    exact Eq.congr_left (occurrences_consolidate _)
  have hscore : (Report.ofDetection scanned.detection).score.total = 0 ↔
      scanned.detection.issues = [] := by
    rw [hscan]
    exact total_eq_zero_iff _
  have hcode : (run surroundings words).exitCode =
      if blocks arguments scanned then 2
      else if scanned.detection.issues.isEmpty then 0 else 1 := by
    have hcrash := h.not_crashed
    rw [hrun] at hcrash ⊢
    exact exitCode_conclude hcrash
  have hblocks := blocks_iff h
  have hnonempty : scanned.detection.hasCritical = true → scanned.detection.issues ≠ [] := by
    intro hany hnil
    rw [Detection.hasCritical, hnil] at hany
    cases hany
  intro outcome report items
  refine ⟨?_, ?_, htotal.trans hscore.symm, ?_, ?_, ?_, ?_, ?_⟩
  · rw [hcode, ← hcritical, ← hblocks]
    by_cases hb : blocks arguments scanned = true
    · simp [hb]
    · by_cases hnil : scanned.detection.issues.isEmpty = true <;> simp [hb, hnil]
  · rw [htotal, hcode]
    by_cases hb : blocks arguments scanned = true
    · simp [hb, hnonempty (hblocks.mp hb).2]
    · simp [hb]
  · exact (htotal.trans hscore.symm).trans (verdict_eq_clean_iff _).symm
  · exact htotal.trans (items_eq_cleanItems_iff _ _ _).symm
  · rw [htotal, severityTable_mem_items_iff, not_not]
  · intro htwo hzero
    rw [hcode] at htwo hzero ⊢
    by_cases hb : blocks arguments scanned = true
    · simp [hb] at htwo
    · by_cases hnil : scanned.detection.issues.isEmpty = true
      · simp [hb, hnil] at hzero
      · simp [hb, hnil]
  · change (run surroundings words).output = _
    rw [hrun, output_conclude, houtput]
    rfl

end Completes

/-- A folder with strict settings whose only source lies where nobody looks. -/
def strictTree : SourceTree where
  files := [
    (["srv", ".slopguardrc"], Text.Utf8.encode "\x7b\"strict\": true\x7d".toList),
    (["srv", "node_modules", "link.ts"],
      Text.Utf8.encode "import \x7b Link \x7d from 'react'".toList)]
  folders := [["home"]]

/-- The folder is named from the root, in a command that runs in another one. -/
theorem exitCode_agrees_with_report_strictTree :
    letI := Pattern.Platform.withRoom 100
    letI := Console.Library.plain []
    let surroundings : Surroundings := ⟨strictTree, ["home"], "now"⟩
    let words := ["/srv", "-s", "--no-report"]
    ∃ arguments root scanned, Completes surroundings words arguments root scanned ∧
      root = ["srv"] ∧ IsStrict surroundings arguments root ∧
      (Report.ofDetection scanned.detection).totalOccurrences = 0 ∧
      (Report.ofDetection scanned.detection).verdict = .clean ∧
      (run surroundings words).exitCode = 0 := by
  let := Pattern.Platform.withRoom 100
  let := Console.Library.plain []
  intro surroundings words
  have hread : Arguments.read words =
      .ok { switches := [.strict, .noReport], arguments := ["/srv"] } := by decide +kernel
  have hcheck : check surroundings { switches := [.strict, .noReport], arguments := ["/srv"] } =
      .ok ["srv"] := by
    decide +kernel
  have hfolder : (scanFolder surroundings ["srv"] false).start.1.toOption.map (fun _ => ()) =
      some () := by
    decide +kernel
  have hcrash : (run surroundings words).crash.isNone := by decide +kernel
  have hexit : (run surroundings words).exitCode = 0 := by decide +kernel
  obtain ⟨scanned, hscan, -⟩ := exists_of_toOption_map hfolder
  have hcompletes : Completes surroundings words
      { switches := [.strict, .noReport], arguments := ["/srv"] } ["srv"] scanned :=
    ⟨hread, rfl, hcheck, hscan, Option.isNone_iff_eq_none.mp hcrash⟩
  have hagree := exitCode_agrees_with_report hcompletes
  have htotal := hagree.2.1.mp hexit
  exact ⟨_, _, _, hcompletes, rfl, .inl rfl, htotal, hagree.2.2.2.1.mp htotal, hexit⟩

end CommandLine

end SlopLint
