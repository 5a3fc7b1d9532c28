import SlopLint.Proofs.ReportTotals
import SlopLint.Proofs.RuleSets
import SlopLint.Proofs.ScoreAxes

/-!
# Rules of the user's own

Whatever the user's own rules are, they leave the findings of all other origins as they are. So a
run with them finds what a run without settings finds, in the same order, with the findings of the
own rules in between, and its score is higher by the weights of these.
-/

namespace SlopLint

/-- Whether an origin is one of the user's own rules. -/
def Origin.isOwn (custom : List CustomRule) : Origin → Bool
  | .rule r => r ∈ custom.map RuleSet.ofCustom
  | .nesting => false

lemma not_own_of_builtin {custom : List CustomRule}
    (hfresh : ∀ own ∈ custom, own.id ∉ RuleSet.default.ids) {rule : Rule}
    (hrule : rule ∈ Rule.builtin) : rule ∉ custom.map RuleSet.ofCustom := by
  intro hmem
  obtain ⟨own, hown, rfl⟩ := List.mem_map.mp hmem
  exact hfresh own hown (List.mem_map_of_mem (f := Rule.id) hrule)

/-- Without the user's own rules the origins of an extended set are those of the built-in one. -/
lemma filter_origins_extended {custom : List CustomRule}
    (hfresh : ∀ own ∈ custom, own.id ∉ RuleSet.default.ids) :
    (RuleSet.extended custom).origins.filter (fun origin => !origin.isOwn custom) =
      RuleSet.default.origins := by
  have hbuiltin : (Rule.builtin.map Origin.rule).filter (fun origin => !origin.isOwn custom) =
      Rule.builtin.map Origin.rule := by
    apply List.filter_eq_self.mpr
    intro origin horigin
    obtain ⟨rule, hrule, rfl⟩ := List.mem_map.mp horigin
    simpa [Origin.isOwn] using not_own_of_builtin hfresh hrule
  have hown : ((custom.map RuleSet.ofCustom).map Origin.rule).filter
      (fun origin => !origin.isOwn custom) = [] := by
    apply List.filter_eq_nil_iff.mpr
    intro origin horigin
    obtain ⟨rule, hrule, rfl⟩ := List.mem_map.mp horigin
    simpa [Origin.isOwn] using hrule
  unfold RuleSet.origins RuleSet.extended RuleSet.default
  rw [List.map_append, List.filter_append, List.filter_append, hbuiltin, hown, List.append_nil]
  rfl

/-- To a run without settings the user's own rules add their findings, and to its score the
weights of these. -/
theorem own_rules_extend_run {settings : Settings} (hplain : settings.severityOverrides = [])
    {quiet : Bool} {files : List SourceFile} {result : Detection}
    (hrun : Detection.run (some settings) quiet files = .ok result) :
    ∃ set plain, RuleSet.ofSettings settings = .ok set ∧
      Detection.run none quiet files = .ok plain ∧
      let found := Detection.attributed set.origins quiet files
      let own := found.filter fun entry => entry.1.isOwn settings.customRules
      let others := found.filter fun entry => !entry.1.isOwn settings.customRules
      result.issues = found.map Prod.snd ∧
      plain.issues = others.map Prod.snd ∧
      ∀ axis, result.score.points axis = plain.score.points axis +
        (((own.map Prod.snd).filter fun issue => Axis.ofRule issue.ruleId = axis).map fun issue =>
          ruleWeight issue.ruleId).sum := by
  obtain ⟨set, hset, rfl⟩ := run_eq_ok hrun
  obtain ⟨⟨_, hfresh⟩, hextended⟩ := build_eq_ok_iff.mp hset
  rw [hplain, override_nil] at hextended
  have hothers : (Detection.attributed set.origins quiet files).filter
      (fun entry => !entry.1.isOwn settings.customRules) =
      Detection.attributed RuleSet.default.origins quiet files := by
    rw [filter_attributed (fun origin => !origin.isOwn settings.customRules), hextended,
      filter_origins_extended hfresh]
  refine ⟨set, .scan .default quiet files, hset, rfl, ?_, ?_, ?_⟩
  · exact (map_snd_attributed set quiet files).symm
  · rw [hothers, map_snd_attributed]
    rfl
  · intro axis
    have hsplit := points_filter_add_points_filter_not
      (fun entry : Origin × Issue => entry.1.isOwn settings.customRules) Prod.snd
      (Detection.attributed set.origins quiet files) axis
    rw [hothers, map_snd_attributed, map_snd_attributed, points_ofIssues_eq_sum_weights] at hsplit
    rw [Nat.add_comm]
    exact hsplit.symm

theorem own_rules_extend_run_sharedId :
    ∃ result plain,
      Detection.run (some { customRules := [elseRule] }) true
        [⟨"app/a.ts", "else if (a) if (b) c(); // TODO"⟩] = .ok result ∧
      Detection.run none true [⟨"app/a.ts", "else if (a) if (b) c(); // TODO"⟩] = .ok plain ∧
      plain.issues.Sublist result.issues ∧
      ∀ axis, plain.score.points axis ≤ result.score.points axis := by
  have hbuild := build_elseRule []
  have hrun := @run_of_rules (some { customRules := [elseRule] }) _ true
    [⟨"app/a.ts", "else if (a) if (b) c(); // TODO"⟩] hbuild
  obtain ⟨set, plain, _, hplain, hissues, hothers, hpoints⟩ :=
    @own_rules_extend_run { customRules := [elseRule] } rfl _ _ _ hrun
  refine ⟨_, plain, hrun, hplain, ?_, ?_⟩
  · rw [hissues, hothers]
    exact List.filter_sublist.map Prod.snd
  · intro axis
    rw [hpoints axis]
    exact Nat.le_add_right _ _

end SlopLint
