import SlopLint.Proofs.ReportTotals
import SlopLint.Proofs.RuleSets

/-!
# Severities that are set by id

A severity that is set for an id is that of everything the rule with this id finds. What the
search for nested control structures finds stays medium, as this search is no rule of the set.
Nothing but severities depends on what is set: two findings that differ only in their severities
come from different rules, and these differ in their ids or in their messages.
-/

namespace SlopLint

/-! ### Findings that agree in id and message -/

/-- Where an id names one rule at most, id and message of a finding decide its severity. -/
theorem severity_eq_of_mem_filesIssues {set : RuleSet} (hnodup : set.ids.Nodup) {quiet : Bool}
    {files : List SourceFile} {a b : Issue} (ha : a ∈ Detection.filesIssues set quiet files)
    (hb : b ∈ Detection.filesIssues set quiet files) (hid : a.ruleId = b.ruleId)
    (hmessage : a.message = b.message) : a.severity = b.severity := by
  obtain ⟨origin, horigin, file, lines, number, line, hfound⟩ :=
    exists_origin_of_mem_filesIssues ha
  obtain ⟨origin', horigin', file', lines', number', line', hfound'⟩ :=
    exists_origin_of_mem_filesIssues hb
  have hids : origin.ruleId = origin'.ruleId := by
    rw [← ruleId_of_mem_findings hfound, ← ruleId_of_mem_findings hfound', hid]
  rw [severity_of_mem_findings hfound, severity_of_mem_findings hfound']
  congr 1
  -- the ids tell two rules apart, and the messages a rule from the search for nesting
  cases origin with
  | rule rule =>
    cases origin' with
    | rule rule' =>
      have hrule := rule_mem_origins.mp horigin
      have hrule' := rule_mem_origins.mp horigin'
      rw [List.inj_on_of_nodup_map hnodup hrule hrule' hids]
    | nesting => exact absurd hmessage (message_ne_of_mem_nesting hfound hfound')
  | nesting =>
    cases origin' with
    | rule rule' => exact absurd hmessage.symm (message_ne_of_mem_nesting hfound' hfound)
    | nesting => rfl

/-! ### Severities of findings -/

lemma severity_of_build {custom : List CustomRule} {overrides : List (String × Severity)}
    {set : RuleSet} (h : RuleSet.build custom overrides = .ok set) {rule : Rule}
    (hrule : rule ∈ set.rules) {severity : Severity}
    (hset : overrides.lookup rule.id = some severity) : rule.severity = severity := by
  obtain ⟨plain, _, rfl⟩ := (mem_rules_of_build h).mp hrule
  exact severity_overrideRule hset

lemma ruleMatches_override (overrides : List (String × Severity)) (file : String) (number : Int)
    (line : Text.Line) (rule : Rule) :
    Scan.ruleMatches file number line (RuleSet.overrideRule overrides rule) =
      Scan.ruleMatches file number line rule := rfl

lemma counts_override (overrides : List (String × Severity)) (rule : Rule) (kinds : FileKinds)
    (quiet : Bool) (lines : List Text.Line) (found : Match) :
    Scan.counts (RuleSet.overrideRule overrides rule) kinds quiet lines found =
      Scan.counts rule kinds quiet lines found := rfl

/-- A severity that is set for an id is that of all findings of the rule with this id. What the
search for nested control structures finds is medium in any case. -/
theorem overrides_decide_severity {settings : Settings} {quiet : Bool} {files : List SourceFile}
    {result : Detection} (hrun : Detection.run (some settings) quiet files = .ok result) :
    ∃ set, RuleSet.ofSettings settings = .ok set ∧
      result.issues = (Detection.attributed set.origins quiet files).map Prod.snd ∧
      (∀ rule issue, (.rule rule, issue) ∈ Detection.attributed set.origins quiet files →
        issue.ruleId = rule.id ∧
        ∀ severity, settings.severityOverrides.lookup issue.ruleId = some severity →
          issue.severity = severity.name) ∧
      (∀ issue, (.nesting, issue) ∈ Detection.attributed set.origins quiet files →
        issue.ruleId = Nesting.ruleId ∧ issue.severity = Severity.medium.name) ∧
      ∀ issue ∈ result.issues, issue.ruleId ≠ Nesting.ruleId →
        ∀ severity, settings.severityOverrides.lookup issue.ruleId = some severity →
          issue.severity = severity.name := by
  obtain ⟨set, hset, rfl⟩ := run_eq_ok hrun
  have hissues : (Detection.scan set quiet files).issues =
      (Detection.attributed set.origins quiet files).map Prod.snd :=
    (map_snd_attributed set quiet files).symm
  have hrules : ∀ rule issue, (.rule rule, issue) ∈
      Detection.attributed set.origins quiet files → issue.ruleId = rule.id ∧
        ∀ severity, settings.severityOverrides.lookup issue.ruleId = some severity →
          issue.severity = severity.name := by
    intro rule issue hmem
    obtain ⟨horigin, file, _, k, hat⟩ := mem_attributed.mp hmem
    obtain ⟨line, _, hfound⟩ := mem_findingsAt.mp hat
    have hid := ruleId_of_mem_findings hfound
    refine ⟨hid, ?_⟩
    intro severity hlookup
    rw [hid] at hlookup
    rw [severity_of_mem_findings hfound]
    exact congrArg Severity.name (severity_of_build hset (rule_mem_origins.mp horigin) hlookup)
  have hnesting : ∀ issue, (.nesting, issue) ∈ Detection.attributed set.origins quiet files →
      issue.ruleId = Nesting.ruleId ∧ issue.severity = Severity.medium.name := by
    intro issue hmem
    obtain ⟨_, file, _, k, hat⟩ := mem_attributed.mp hmem
    obtain ⟨line, _, hfound⟩ := mem_findingsAt.mp hat
    exact ⟨ruleId_of_mem_findings hfound, severity_of_mem_findings hfound⟩
  refine ⟨set, hset, hissues, hrules, hnesting, ?_⟩
  intro issue hissue hother severity hlookup
  rw [hissues] at hissue
  obtain ⟨⟨origin, found⟩, hmem, rfl⟩ := List.mem_map.mp hissue
  cases origin with
  | rule rule => exact (hrules rule found hmem).2 severity hlookup
  | nesting => exact absurd (hnesting found hmem).1 hother

/-- A line with two control structures, behind the word that `elseRule` looks for. -/
def crowdedFile : SourceFile := ⟨"a.ts", "else if (a) if (b) c();"⟩

lemma dense_mem_crowdedFile (set : RuleSet) (quiet : Bool) :
    (.nesting, Nesting.issue "a.ts" 1 crowdedFile.content.toList 1 Nesting.denseMessage) ∈
      Detection.attributed set.origins quiet [crowdedFile] := by
  have hline : (Text.lines crowdedFile.content.toList)[0]? =
      some crowdedFile.content.toList := by decide
  have hdense : 1 < Nesting.openerCount crowdedFile.content.toList := by decide +kernel
  refine mem_attributed.mpr
    ⟨by simp [RuleSet.origins], crowdedFile, List.mem_singleton_self _, 0, ?_⟩
  exact mem_findingsAt.mpr ⟨_, hline, dense_mem_nesting _ _ hdense⟩

lemma else_mem_crowdedFile {set : RuleSet} (overrides : List (String × Severity))
    (h : RuleSet.overrideRule overrides (RuleSet.ofCustom elseRule) ∈ set.rules) :
    (.rule (RuleSet.overrideRule overrides (RuleSet.ofCustom elseRule)),
      Scan.toIssue (RuleSet.overrideRule overrides (RuleSet.ofCustom elseRule))
        ⟨"a.ts", 1, 1, "else", Nesting.ruleId⟩) ∈
      Detection.attributed set.origins false [crowdedFile] := by
  have hline : (Text.lines crowdedFile.content.toList)[0]? =
      some crowdedFile.content.toList := by decide
  have hmatch : ⟨"a.ts", 1, 1, "else", Nesting.ruleId⟩ ∈
      Scan.ruleMatches "a.ts" 1 crowdedFile.content.toList (RuleSet.ofCustom elseRule) := by
    decide +kernel
  have hcounts : Scan.counts (RuleSet.ofCustom elseRule) (.ofPath "a.ts") false
      (Text.lines crowdedFile.content.toList) ⟨"a.ts", 1, 1, "else", Nesting.ruleId⟩ = true := by
    decide +kernel
  rw [← ruleMatches_override overrides] at hmatch
  rw [← counts_override overrides] at hcounts
  refine mem_attributed.mpr
    ⟨rule_mem_origins.mpr h, crowdedFile, List.mem_singleton_self _, 0, ?_⟩
  exact mem_findingsAt.mpr ⟨_, hline, mem_ruleIssues.mpr ⟨_, hmatch, hcounts, rfl⟩⟩

theorem overrides_decide_severity_sharedId :
    ∃ result, Detection.run (some {
        customRules := [elseRule], severityOverrides := [(Nesting.ruleId, .critical)] }) false
        [crowdedFile] = .ok result ∧
      (∃ issue ∈ result.issues, issue.ruleId = Nesting.ruleId ∧ issue.severity = "critical") ∧
      ∃ issue ∈ result.issues, issue.ruleId = Nesting.ruleId ∧ issue.severity = "medium" := by
  have hbuild := build_elseRule [(Nesting.ruleId, .critical)]
  have hrun := @run_of_rules (some {
    customRules := [elseRule], severityOverrides := [(Nesting.ruleId, .critical)] }) _ false
    [crowdedFile] hbuild
  obtain ⟨set, hset, hissues, hrules, hnesting, _⟩ := overrides_decide_severity hrun
  have hrule : RuleSet.overrideRule [(Nesting.ruleId, .critical)] (RuleSet.ofCustom elseRule) ∈
      set.rules :=
    (mem_rules_of_build hset).mpr ⟨_, .inr ⟨elseRule, List.mem_singleton_self _, rfl⟩, rfl⟩
  have helse := else_mem_crowdedFile [(Nesting.ruleId, .critical)] hrule
  have hdense := dense_mem_crowdedFile set false
  refine ⟨_, hrun, ?_⟩
  rw [hissues]
  constructor
  · have hseverity := (hrules _ _ helse).2 .critical List.lookup_cons_self
    exact ⟨_, List.mem_map_of_mem helse, rfl, hseverity⟩
  · exact ⟨_, List.mem_map_of_mem hdense, hnesting _ hdense⟩

/-- A severity that is set for the id of the findings about nesting does not reach them. -/
theorem nesting_escapes_override :
    ∃ result, Detection.run (some { severityOverrides := [(Nesting.ruleId, .low)] }) false
        [crowdedFile] = .ok result ∧
      ¬ ∀ issue ∈ result.issues, ∀ severity,
        [(Nesting.ruleId, Severity.low)].lookup issue.ruleId = some severity →
          issue.severity = severity.name := by
  refine ⟨_, run_of_rules _ _ (build_nil [(Nesting.ruleId, .low)]), ?_⟩
  rw [issues_scan, ← map_snd_attributed]
  intro hobeys
  have hmem := List.mem_map_of_mem (f := Prod.snd) (dense_mem_crowdedFile
    ((RuleSet.extended []).override [(Nesting.ruleId, .low)]) false)
  have hlow := hobeys _ hmem .low (by simp [Nesting.issue])
  exact absurd hlow (by decide)

/-! ### Findings without their severities -/

/-- An issue with its severity left out. -/
def Issue.withoutSeverity (issue : Issue) : Issue := { issue with severity := "" }

/-- A key with its severity left out. -/
def IssueKey.withoutSeverity (key : IssueKey) : IssueKey := { key with severity := "" }

/-- An entry with its severity left out. -/
def Consolidated.withoutSeverity (entry : Consolidated) : Consolidated :=
  { entry with key := entry.key.withoutSeverity }

lemma ruleIssues_override (overrides : List (String × Severity)) (kinds : FileKinds)
    (quiet : Bool) (file : String) (lines : List Text.Line) (number : Int) (line : Text.Line)
    (rule : Rule) :
    (Scan.ruleIssues kinds quiet file lines number line
        (RuleSet.overrideRule overrides rule)).map Issue.withoutSeverity =
      (Scan.ruleIssues kinds quiet file lines number line rule).map Issue.withoutSeverity := by
  simp only [Scan.ruleIssues, ruleMatches_override, List.map_map]
  rfl

/-- The issues of a run under severities that are set differ from those of the plain rules in
nothing but severity. -/
lemma filesIssues_override (set : RuleSet) (overrides : List (String × Severity)) (quiet : Bool)
    (files : List SourceFile) :
    (Detection.filesIssues (set.override overrides) quiet files).map Issue.withoutSeverity =
      (Detection.filesIssues set quiet files).map Issue.withoutSeverity := by
  simp only [Detection.filesIssues, Scan.fileIssues, Scan.lineIssues, RuleSet.override,
    List.map_flatMap, List.map_append, List.flatMap_map, ruleIssues_override]

lemma ofIssues_withoutSeverity (issues : List Issue) :
    Score.ofIssues (issues.map Issue.withoutSeverity) = Score.ofIssues issues := by
  unfold Score.ofIssues
  rw [List.foldl_map]
  rfl

/-- Where the rest of a key decides its severity, severities may be left out before or after
consolidation. -/
theorem consolidate_withoutSeverity (issues : List Issue)
    (h : ∀ a ∈ issues, ∀ b ∈ issues, a.key.withoutSeverity = b.key.withoutSeverity →
      a.severity = b.severity) :
    consolidate (issues.map Issue.withoutSeverity) =
      (consolidate issues).map Consolidated.withoutSeverity := by
  have hkeys : ∀ a ∈ issues, ∀ b ∈ issues,
      a.key.withoutSeverity = b.key.withoutSeverity → a.key = b.key := by
    intro a ha b hb hab
    have hseverity := h a ha b hb hab
    simp only [IssueKey.withoutSeverity, Issue.key, IssueKey.mk.injEq, and_true] at hab
    simp only [Issue.key, IssueKey.mk.injEq]
    exact ⟨hab.1, hab.2.1, hab.2.2.1, hab.2.2.2, hseverity⟩
  have hgroups := groupBy_comp_of_injOn Issue.key IssueKey.withoutSeverity issues hkeys
  have himages := groupBy_map Issue.key Issue.withoutSeverity issues
  unfold consolidate
  rw [himages]
  change ((groupBy (fun issue => issue.key.withoutSeverity) issues).map _).map _ = _
  rw [hgroups, List.map_map, List.map_map, List.map_map]
  apply List.map_congr_left
  rintro ⟨key, members⟩ _
  have hlocations : (members.map Issue.withoutSeverity).map Issue.location =
      members.map Issue.location := by
    rw [List.map_map]
    rfl
  simp only [Function.comp_apply, Consolidated.withoutSeverity, hlocations]

lemma consolidate_of_build {custom : List CustomRule} {overrides : List (String × Severity)}
    {set : RuleSet} (hbuild : RuleSet.build custom overrides = .ok set) (quiet : Bool)
    (files : List SourceFile) :
    consolidate ((Detection.filesIssues set quiet files).map Issue.withoutSeverity) =
      (consolidate (Detection.filesIssues set quiet files)).map Consolidated.withoutSeverity := by
  apply consolidate_withoutSeverity
  intro a ha b hb hab
  simp only [IssueKey.withoutSeverity, Issue.key, IssueKey.mk.injEq, and_true] at hab
  obtain ⟨hid, _, _, hmessage⟩ := hab
  exact severity_eq_of_mem_filesIssues (nodup_ids_of_build hbuild) ha hb hid hmessage

/-- Runs that differ in the severities that are set find the same, severities aside: the same
issues, the same score and the same entries. -/
theorem overrides_change_severities_only {settings settings' : Settings}
    (hcustom : settings'.customRules = settings.customRules) {quiet : Bool}
    {files : List SourceFile} {result : Detection}
    (hrun : Detection.run (some settings) quiet files = .ok result) :
    ∃ result', Detection.run (some settings') quiet files = .ok result' ∧
      result'.issues.map Issue.withoutSeverity = result.issues.map Issue.withoutSeverity ∧
      result'.score = result.score ∧
      result'.consolidated.map Consolidated.withoutSeverity =
        result.consolidated.map Consolidated.withoutSeverity := by
  obtain ⟨set, hset, rfl⟩ := run_eq_ok hrun
  obtain ⟨haccepted, hplain⟩ := build_eq_ok_iff.mp hset
  obtain ⟨set', hset'⟩ : ∃ set', RuleSet.ofSettings settings' = .ok set' :=
    ⟨_, build_eq_ok_iff.mpr ⟨hcustom ▸ haccepted, rfl⟩⟩
  obtain ⟨_, hplain'⟩ := build_eq_ok_iff.mp hset'
  have hissues : (Detection.filesIssues set' quiet files).map Issue.withoutSeverity =
      (Detection.filesIssues set quiet files).map Issue.withoutSeverity := by
    rw [hplain, hplain', hcustom, filesIssues_override, filesIssues_override]
  refine ⟨.scan set' quiet files, run_of_rules quiet files hset', hissues, ?_, ?_⟩
  · have hscore := congrArg Score.ofIssues hissues
    rw [ofIssues_withoutSeverity, ofIssues_withoutSeverity] at hscore
    exact hscore
  · have hentries := congrArg consolidate hissues
    rw [consolidate_of_build hset', consolidate_of_build hset] at hentries
    exact hentries

/-- Here what is set makes the severities of rule and search for nesting the same. -/
theorem overrides_change_severities_only_sharedId :
    ∃ result result',
      Detection.run (some { customRules := [elseRule] }) false [crowdedFile] = .ok result ∧
      Detection.run (some {
        customRules := [elseRule], severityOverrides := [(Nesting.ruleId, .medium)] }) false
        [crowdedFile] = .ok result' ∧
      result'.issues.map Issue.withoutSeverity = result.issues.map Issue.withoutSeverity ∧
      result'.score = result.score ∧
      result'.consolidated.map Consolidated.withoutSeverity =
        result.consolidated.map Consolidated.withoutSeverity := by
  have hbuild := build_elseRule []
  have hrun := @run_of_rules (some { customRules := [elseRule] }) _ false [crowdedFile] hbuild
  obtain ⟨result', hrun', hagree⟩ := @overrides_change_severities_only
    { customRules := [elseRule] }
    { customRules := [elseRule], severityOverrides := [(Nesting.ruleId, .medium)] } rfl _ _ _ hrun
  refine ⟨_, result', hrun, hrun', ?_⟩
  exact hagree

end SlopLint
