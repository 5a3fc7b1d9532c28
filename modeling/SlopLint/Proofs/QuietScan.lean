import SlopLint.Proofs.Acceptance
import SlopLint.Proofs.FindingOrigins
import SlopLint.Proofs.RuleSets

/-!
# Quiet scans of test files

In a quiet scan of a test file no match of any rule counts: the rule about logs is the one that
quiet scans keep, and it leaves out test files by itself. The search for nested control structures
knows of no exceptions, so its findings are what such a scan shows.
-/

namespace SlopLint

open Text

/-- A match counts when no exception covers it in its file. -/
lemma counts_eq_true_iff {rule : Rule} {kinds : FileKinds} {quiet : Bool} {lines : List Line}
    {found : Match} :
    Scan.counts rule kinds quiet lines found = true ↔
      Accepted rule.subject kinds quiet (Scan.site lines found) := by
  rw [← accepts_eq_true_iff, Scan.counts]
  cases accepts rule.subject kinds quiet (Scan.site lines found) <;> simp

section Built

variable {custom : List CustomRule} {overrides : List (String × Severity)} {set : RuleSet}
  {rule : Rule} {file : String}

/-- The rule about logs is the built-in one in every set, and it skips test files. -/
lemma skipInTests_of_build (hbuild : RuleSet.build custom overrides = .ok set)
    (hrule : rule ∈ set.rules) (hid : rule.id = "production_console_log") :
    rule.skipInTests = true := by
  have hbuiltin : ∀ plain ∈ Rule.builtin, plain.id = "production_console_log" →
      plain.skipInTests = true := by
    decide +kernel
  have htaken : "production_console_log" ∈ RuleSet.default.ids := by
    decide +kernel
  obtain ⟨⟨_, hfresh⟩, _⟩ := build_eq_ok_iff.mp hbuild
  obtain ⟨plain, hplain, rfl⟩ := (mem_rules_of_build hbuild).mp hrule
  rcases hplain with hplain | ⟨own, hown, rfl⟩
  · exact hbuiltin plain hplain hid
  · have hown' : own.id = "production_console_log" := hid
    exact absurd (hown' ▸ htaken) (hfresh own hown)

/-- No match of a rule counts in a quiet scan of a test file. -/
lemma not_accepted_of_quiet (hbuild : RuleSet.build custom overrides = .ok set)
    (htest : FileKind.isTest file = true) (hrule : rule ∈ set.rules) (site : Site) :
    ¬ Accepted rule.subject (.ofPath file) true site := by
  intro haccepted
  have hloud : (FileKinds.ofPath file).isTest = true := htest
  -- quiet scans spare the rule about logs, so this rule has to be refused for the kind of the file
  by_cases hid : rule.id = "production_console_log"
  · have hskips := skipInTests_of_build hbuild hrule hid
    exact absurd (haccepted.tests hskips) (by simp [hloud])
  · exact absurd (haccepted.loud rfl hid) (by simp [hloud])

lemma ruleIssues_eq_nil_of_quiet (hbuild : RuleSet.build custom overrides = .ok set)
    (htest : FileKind.isTest file = true) (hrule : rule ∈ set.rules) (lines : List Line)
    (number : Int) (line : Line) :
    Scan.ruleIssues (.ofPath file) true file lines number line rule = [] := by
  apply List.eq_nil_iff_forall_not_mem.mpr
  intro issue hissue
  obtain ⟨found, _, hcounts, _⟩ := mem_ruleIssues.mp hissue
  exact not_accepted_of_quiet hbuild htest hrule _ (counts_eq_true_iff.mp hcounts)

lemma fileIssues_of_quiet (hbuild : RuleSet.build custom overrides = .ok set)
    (htest : FileKind.isTest file = true) (content : String) :
    Scan.fileIssues set true file content =
      (Text.lines content.toList).zipIdx.flatMap fun (line, i) =>
        Nesting.issues file (i + 1 : Nat) line := by
  have hrules : ∀ (number : Int) (line : Line),
      set.rules.flatMap (Scan.ruleIssues (.ofPath file) true file (Text.lines content.toList)
        number line) = [] := by
    intro number line
    apply List.flatMap_eq_nil_iff.mpr
    intro rule hrule
    exact ruleIssues_eq_nil_of_quiet hbuild htest hrule _ number line
  simp only [Scan.fileIssues, Scan.lineIssues, hrules, List.nil_append]

end Built

lemma nesting_eq_nil_iff {file : String} {number : Int} {line : Line} :
    Nesting.issues file number line = [] ↔
      Nesting.openerCount line ≤ 1 ∧ Nesting.isDeep line = false := by
  simp only [Nesting.issues, List.append_eq_nil_iff, ite_eq_right_iff, List.cons_ne_nil,
    imp_false, Nat.not_lt, Bool.not_eq_true]

/-- A quiet scan of a test file shows what is found about nesting and nothing else. So it shows
logs alone only when no line has nested control structures, and then it shows nothing. -/
theorem quiet_test_file_shows_nesting_only {custom : List CustomRule}
    {overrides : List (String × Severity)} {set : RuleSet}
    (hbuild : RuleSet.build custom overrides = .ok set) {file : String}
    (htest : FileKind.isTest file = true) (content : String) :
    (Scan.fileIssues set true file content =
      (Text.lines content.toList).zipIdx.flatMap fun (line, i) =>
        Nesting.issues file (i + 1 : Nat) line) ∧
    ((∀ issue ∈ Scan.fileIssues set true file content,
        issue.ruleId = "production_console_log") ↔
      ∀ line ∈ Text.lines content.toList,
        Nesting.openerCount line ≤ 1 ∧ Nesting.isDeep line = false) := by
  have hissues := fileIssues_of_quiet hbuild htest content
  refine ⟨hissues, ?_⟩
  rw [hissues]
  constructor
  · intro hlogs line hline
    obtain ⟨i, hi⟩ := List.mem_iff_getElem?.mp hline
    refine (@nesting_eq_nil_iff file (i + 1 : Nat) line).mp ?_
    apply List.eq_nil_iff_forall_not_mem.mpr
    intro issue hissue
    have hlog := hlogs issue (List.mem_flatMap.mpr
      ⟨(line, i), List.mem_zipIdx_iff_getElem?.mpr hi, hissue⟩)
    have hother : Nesting.ruleId ≠ "production_console_log" := by decide
    obtain ⟨column, message, rfl⟩ := eq_issue_of_mem_nesting hissue
    exact absurd hlog hother
  · intro hplain issue hissue
    obtain ⟨⟨line, i⟩, hline, hfound⟩ := List.mem_flatMap.mp hissue
    have hmem : line ∈ Text.lines content.toList :=
      List.mem_of_getElem? (List.mem_zipIdx_iff_getElem?.mp hline)
    dsimp only at hfound
    rw [nesting_eq_nil_iff.mpr (hplain line hmem)] at hfound
    cases hfound

/-- The line matches `elseRule` too, which does not count here. -/
theorem quiet_test_file_shows_nesting_only_crowded :
    ∃ set, RuleSet.build [elseRule] [] = .ok set ∧ FileKind.isTest "app/a.test.ts" = true ∧
      Scan.fileIssues set true "app/a.test.ts" "else if (a) if (b) c();" =
        [Nesting.issue "app/a.test.ts" 1 "else if (a) if (b) c();".toList 1
          Nesting.denseMessage] := by
  have hbuild := build_elseRule []
  have htest : FileKind.isTest "app/a.test.ts" = true := by decide +kernel
  have hnesting : ((Text.lines "else if (a) if (b) c();".toList).zipIdx.flatMap fun (line, i) =>
      Nesting.issues "app/a.test.ts" (i + 1 : Nat) line) =
        [Nesting.issue "app/a.test.ts" 1 "else if (a) if (b) c();".toList 1
          Nesting.denseMessage] := by
    decide +kernel
  refine ⟨_, hbuild, htest, ?_⟩
  rw [(quiet_test_file_shows_nesting_only hbuild htest _).1, hnesting]

/-- The findings about nesting are not those of the rule about logs. -/
theorem quiet_test_file_shows_more_than_logs :
    ∃ set, RuleSet.build [] [] = .ok set ∧ FileKind.isTest "app/a.test.ts" = true ∧
      ¬ ∀ issue ∈ Scan.fileIssues set true "app/a.test.ts" "if (a) if (b) c();",
        issue.ruleId = "production_console_log" := by
  have hline : (Text.lines "if (a) if (b) c();".toList)[0]? =
      some "if (a) if (b) c();".toList := by decide
  have hdense : 1 < Nesting.openerCount "if (a) if (b) c();".toList := by decide +kernel
  refine ⟨_, build_nil [], by decide +kernel, ?_⟩
  intro hlogs
  have hlog := hlogs _ (nesting_mem_fileIssues _ true hline (dense_mem_nesting _ _ hdense))
  exact absurd hlog (by decide)

end SlopLint
