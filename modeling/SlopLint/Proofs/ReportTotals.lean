import SlopLint.Proofs.ConsolidatedIssues
import SlopLint.Proofs.FindingOrigins
import SlopLint.Proofs.ScoreAxes
import SlopLint.Report.Basic

/-!
# Totals of a report

A report is made from the consolidated entries of a run. Its totals are nevertheless those of the
issues themselves: the entries keep every issue once, by severity and by rule, and the score adds
the weight of a rule once for every location.
-/

namespace SlopLint

/-! ### Entries and issues -/

lemma occurrences_eq_sum (entries : List Consolidated) :
    Report.occurrences entries = (entries.map Consolidated.occurrences).sum := by
  induction entries with
  | nil => rfl
  | cons entry entries ih =>
    rw [List.map_cons, List.sum_cons, ← ih]
    rfl

lemma sum_filter_eq (p : Consolidated → Bool) (entries : List Consolidated) :
    ((entries.filter p).map Consolidated.occurrences).sum =
      (entries.map fun entry => (if p entry then 1 else 0) * entry.occurrences).sum := by
  induction entries with
  | nil => rfl
  | cons entry entries ih => by_cases h : p entry <;> simp [h, ih]

lemma countP_eq_sum {α : Type} (p : α → Bool) (values : List α) :
    values.countP p = (values.map fun value => if p value then 1 else 0).sum := by
  induction values with
  | nil => rfl
  | cons value values ih => by_cases h : p value <;> simp [h, ih, Nat.add_comm]

/-- The entries whose keys have a property stand for the issues whose keys have it. -/
theorem occurrences_filter_consolidate (p : IssueKey → Bool) (issues : List Issue) :
    Report.occurrences ((consolidate issues).filter fun entry => p entry.key) =
      issues.countP fun issue => p issue.key := by
  rw [occurrences_eq_sum, sum_filter_eq, countP_eq_sum]
  exact sum_consolidate (fun key => if p key then 1 else 0) issues

lemma occurrences_consolidate (issues : List Issue) :
    Report.occurrences (consolidate issues) = issues.length := by
  have h := occurrences_filter_consolidate (fun _ => true) issues
  simpa using h

/-! ### Severities -/

/-- Findings whose severities are among the four are counted once by the four together. -/
lemma sum_countP_severity (issues : List Issue)
    (h : ∀ issue ∈ issues, ∃ severity : Severity, issue.severity = severity.name) :
    (Severity.all.map fun severity =>
      issues.countP fun issue => issue.severity == severity.name).sum = issues.length := by
  induction issues with
  | nil => rfl
  | cons issue issues ih =>
    have hrest := ih fun other hother => h other (by simp [hother])
    obtain ⟨severity, hseverity⟩ := h issue (by simp)
    simp only [Severity.all, List.map_cons, List.map_nil, List.sum_cons, List.sum_nil] at hrest ⊢
    cases severity <;> simp [hseverity, Severity.name] at hrest ⊢ <;> omega

/-! ### Rules -/

/-- What tells the findings of one rule apart, their places left out. -/
def IssueKey.appearance (key : IssueKey) : String × String × String × String :=
  (key.file, key.code, key.message, key.severity)

lemma byRule_eq (detection : Detection) :
    (Report.ofDetection detection).byRule =
      ((detection.consolidated.map (·.key.ruleId)).eraseDups).map fun ruleId =>
        Report.summaryOf ruleId
          (detection.consolidated.filter fun entry => entry.key.ruleId == ruleId) := by
  simp only [Report.ofDetection, groupBy_eq, List.map_map]
  rfl

lemma consolidate_ruleIds (issues : List Issue) :
    ((consolidate issues).map (·.key.ruleId)).eraseDups =
      (issues.map Issue.ruleId).eraseDups := by
  have hkeys : (consolidate issues).map (·.key.ruleId) =
      ((consolidate issues).map Consolidated.key).map IssueKey.ruleId := by
    rw [List.map_map]
    rfl
  rw [hkeys, consolidate_keys, eraseDups_map_eraseDups, List.map_map]
  rfl

/-- The entries of a rule are as many as there are different appearances of its findings. -/
lemma length_entries_of_rule (issues : List Issue) (ruleId : String) :
    ((consolidate issues).filter fun entry => entry.key.ruleId == ruleId).length =
      ((issues.filter fun issue => issue.ruleId == ruleId).map
        (·.key.appearance)).eraseDups.length := by
  have hentries : ((consolidate issues).filter fun entry => entry.key.ruleId == ruleId).map
      Consolidated.key =
      ((issues.filter fun issue => issue.ruleId == ruleId).map Issue.key).eraseDups := by
    have hleft := List.filter_map (f := Consolidated.key) (p := fun key => key.ruleId == ruleId)
      (l := consolidate issues)
    have hright := List.filter_map (f := Issue.key) (p := fun key => key.ruleId == ruleId)
      (l := issues)
    rw [consolidate_keys, filter_eraseDups, hright] at hleft
    exact hleft.symm
  have hinj : ∀ a ∈ (issues.filter fun issue => issue.ruleId == ruleId).map Issue.key,
      ∀ b ∈ (issues.filter fun issue => issue.ruleId == ruleId).map Issue.key,
      a.appearance = b.appearance → a = b := by
    intro a ha b hb hab
    obtain ⟨i, hi, rfl⟩ := List.mem_map.mp ha
    obtain ⟨j, hj, rfl⟩ := List.mem_map.mp hb
    have hid : i.ruleId = j.ruleId := by
      have h1 := (List.mem_filter.mp hi).2
      have h2 := (List.mem_filter.mp hj).2
      rw [beq_iff_eq] at h1 h2
      rw [h1, h2]
    simp only [IssueKey.appearance, Issue.key, Prod.mk.injEq] at hab
    simp only [Issue.key, IssueKey.mk.injEq]
    exact ⟨hid, hab⟩
  have happear := eraseDups_map_of_injOn IssueKey.appearance _ hinj
  rw [List.map_map] at happear
  have hlength := congrArg List.length happear
  rw [List.length_map, ← hentries, List.length_map] at hlength
  exact hlength.symm

/-- What a report says about a rule is what the issues of the rule say. -/
lemma summary_of_mem_byRule {issues : List Issue} {count : Nat} {summary : RuleSummary}
    (h : summary ∈ (Report.ofDetection (.ofIssues issues count)).byRule) :
    summary.occurrences = issues.countP (fun issue => issue.ruleId == summary.ruleId) ∧
      summary.uniqueIssues =
        ((issues.filter fun issue => issue.ruleId == summary.ruleId).map
          (·.key.appearance)).eraseDups.length := by
  rw [byRule_eq] at h
  obtain ⟨ruleId, _, rfl⟩ := List.mem_map.mp h
  constructor
  · exact occurrences_filter_consolidate (fun key => key.ruleId == ruleId) issues
  · exact length_entries_of_rule issues ruleId

lemma sum_uniqueIssues (detection : Detection) :
    ((Report.ofDetection detection).byRule.map RuleSummary.uniqueIssues).sum =
      detection.consolidated.length := by
  have h := sum_groupBy (fun entry : Consolidated => entry.key.ruleId) (fun _ _ => 1)
    detection.consolidated
  simp only [List.map_const', List.sum_replicate_nat, Nat.mul_one] at h
  rw [← h, Report.ofDetection, List.map_map]
  rfl

/-! ### The totals of a run -/

lemma run_eq_ok {settings : Option Settings} {quiet : Bool} {files : List SourceFile}
    {result : Detection} (h : Detection.run settings quiet files = .ok result) :
    ∃ set, Detection.rulesOf settings = .ok set ∧ result = .scan set quiet files := by
  unfold Detection.run at h
  cases hset : Detection.rulesOf settings with
  | error fault =>
    rw [hset] at h
    cases h
  | ok set =>
    rw [hset] at h
    cases h
    exact ⟨set, rfl, rfl⟩

@[simp]
lemma issues_scan (set : RuleSet) (quiet : Bool) (files : List SourceFile) :
    (Detection.scan set quiet files).issues = Detection.filesIssues set quiet files := rfl

lemma run_of_rules {settings : Option Settings} {set : RuleSet} (quiet : Bool)
    (files : List SourceFile) (h : Detection.rulesOf settings = .ok set) :
    Detection.run settings quiet files = .ok (.scan set quiet files) := by
  unfold Detection.run
  rw [h]
  rfl

/-- The numbers of a report are counts of issues: all of them, those of every severity and of every
rule, the different ones of a rule, and the weights of the rules over all locations. -/
structure Report.Counts (report : Report) (issues : List Issue) : Prop where
  total : report.totalOccurrences = issues.length
  severities : report.bySeverity = Severity.all.map fun severity =>
    (severity, issues.countP fun issue => issue.severity == severity.name)
  severities_sum : (report.bySeverity.map Prod.snd).sum = report.totalOccurrences
  rules : report.byRule.map RuleSummary.ruleId = (issues.map Issue.ruleId).eraseDups
  rule_summaries : ∀ summary ∈ report.byRule,
    summary.occurrences = issues.countP (fun issue => issue.ruleId == summary.ruleId) ∧
    summary.uniqueIssues =
      ((issues.filter fun issue => issue.ruleId == summary.ruleId).map fun issue =>
        (issue.file, issue.code, issue.message, issue.severity)).eraseDups.length
  unique_sum : (report.byRule.map RuleSummary.uniqueIssues).sum = report.uniqueIssues
  score_total : report.score.total =
    (report.issues.map fun entry => ruleWeight entry.key.ruleId * entry.locations.length).sum

/-- The report on a run counts the issues that the run has found. -/
theorem report_counts_issues {settings : Option Settings} {quiet : Bool}
    {files : List SourceFile} {result : Detection}
    (hrun : Detection.run settings quiet files = .ok result) :
    (Report.ofDetection result).Counts result.issues := by
  obtain ⟨set, _, rfl⟩ := run_eq_ok hrun
  have htotal : (Report.ofDetection (.scan set quiet files)).totalOccurrences =
      (Detection.filesIssues set quiet files).length := occurrences_consolidate _
  have hseverity : (Report.ofDetection (.scan set quiet files)).bySeverity =
      Severity.all.map (fun severity =>
        (severity, (Detection.filesIssues set quiet files).countP fun issue =>
          issue.severity == severity.name)) := by
    apply List.map_congr_left
    intro severity _
    exact congrArg (Prod.mk severity)
      (occurrences_filter_consolidate (fun key => key.severity == severity.name) _)
  refine ⟨htotal, hseverity, ?_, ?_, ?_, ?_, ?_⟩
  · rw [hseverity, htotal, List.map_map]
    exact sum_countP_severity _ fun issue => severity_of_mem_filesIssues
  · rw [byRule_eq, List.map_map]
    exact (List.map_id _).trans (consolidate_ruleIds _)
  · intro summary hsummary
    exact summary_of_mem_byRule hsummary
  · exact sum_uniqueIssues _
  · have hscore := sum_consolidate (fun key => ruleWeight key.ruleId)
      (Detection.filesIssues set quiet files)
    exact (total_ofIssues _).trans hscore.symm

theorem report_counts_issues_overridden :
    ∃ result, Detection.run (some { severityOverrides := [("any_type_usage", .critical)] }) true
        [⟨"app/a.ts", "let a: any, b: any;"⟩, ⟨"lib/b.ts", "// TODO: add logic here"⟩] =
          .ok result ∧
      (Report.ofDetection result).Counts result.issues := by
  refine ⟨_, rfl, ?_⟩
  exact @report_counts_issues (some { severityOverrides := [("any_type_usage", .critical)] }) true
    [⟨"app/a.ts", "let a: any, b: any;"⟩, ⟨"lib/b.ts", "// TODO: add logic here"⟩] _ rfl

end SlopLint
