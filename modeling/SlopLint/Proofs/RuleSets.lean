import Mathlib.Data.List.Nodup
import Mathlib.Tactic.Lemma
import SlopLint.Detection

/-!
# Rule sets built from settings

Building succeeds exactly when no rule of the user's own takes an id that is already taken. The set
then holds the built-in rules and the user's own, each with the severity that is set for its id,
and an id names one rule of it at most.
-/

namespace SlopLint

/-! ### Ids that are taken -/

/-- No id is taken twice when the ids of the rules differ from each other and from those taken
before. -/
lemma duplicate?_eq_none_iff (taken : List String) (index : Nat) (custom : List CustomRule) :
    RuleSet.duplicate? taken index custom = none ↔
      (custom.map CustomRule.id).Nodup ∧ ∀ rule ∈ custom, rule.id ∉ taken := by
  induction custom generalizing taken index with
  | nil => simp [RuleSet.duplicate?]
  | cons rule rules ih =>
    rw [RuleSet.duplicate?]
    by_cases htaken : rule.id ∈ taken
    · simp [htaken]
    · rw [if_neg (by simpa using htaken), ih, List.map_cons, List.nodup_cons]
      constructor
      · rintro ⟨hnodup, hfresh⟩
        refine ⟨⟨?_, hnodup⟩, ?_⟩
        · intro hmem
          obtain ⟨other, hother, hid⟩ := List.mem_map.mp hmem
          exact hfresh other hother (hid ▸ List.mem_cons_self)
        · intro other hother
          rcases List.mem_cons.mp hother with rfl | hother
          · exact htaken
          · exact fun hmem => hfresh other hother (List.mem_cons_of_mem _ hmem)
      · rintro ⟨⟨hnew, hnodup⟩, hfresh⟩
        refine ⟨hnodup, ?_⟩
        intro other hother hmem
        rcases List.mem_cons.mp hmem with hid | hmem
        · exact hnew (List.mem_map.mpr ⟨other, hother, hid⟩)
        · exact hfresh other (List.mem_cons_of_mem _ hother) hmem

lemma nodup_builtin_ids : RuleSet.default.ids.Nodup := by
  decide +kernel

/-! ### Overridden rules -/

@[simp]
lemma overrideRule_id (overrides : List (String × Severity)) (rule : Rule) :
    (RuleSet.overrideRule overrides rule).id = rule.id := rfl

@[simp]
lemma overrideRule_nil : RuleSet.overrideRule [] = id := rfl

/-- A severity that is set for the id of a rule is the one it gets. -/
lemma severity_overrideRule {overrides : List (String × Severity)} {rule : Rule}
    {severity : Severity} (h : overrides.lookup rule.id = some severity) :
    (RuleSet.overrideRule overrides rule).severity = severity := by
  rw [RuleSet.overrideRule, h, Option.getD_some]

@[simp]
lemma ids_override (set : RuleSet) (overrides : List (String × Severity)) :
    (set.override overrides).ids = set.ids := by
  simp [RuleSet.override, RuleSet.ids]

@[simp]
lemma override_nil (set : RuleSet) : set.override [] = set := by
  simp [RuleSet.override]

/-! ### Building -/

/-- The built-in rules and the rules of a list behind them. -/
def RuleSet.extended (custom : List CustomRule) : RuleSet :=
  ⟨Rule.builtin ++ custom.map RuleSet.ofCustom⟩

/-- Building fails for a rule whose id is taken, and for nothing else; the severities that are set
have no part in it. -/
theorem build_eq_ok_iff {custom : List CustomRule} {overrides : List (String × Severity)}
    {set : RuleSet} :
    RuleSet.build custom overrides = .ok set ↔
      ((custom.map CustomRule.id).Nodup ∧ ∀ rule ∈ custom, rule.id ∉ RuleSet.default.ids) ∧
        set = (RuleSet.extended custom).override overrides := by
  rw [← duplicate?_eq_none_iff _ 0]
  unfold RuleSet.build RuleSet.extend
  cases RuleSet.duplicate? RuleSet.default.ids 0 custom with
  | none =>
    constructor
    · intro h
      cases h
      exact ⟨rfl, rfl⟩
    · rintro ⟨_, rfl⟩
      rfl
  | some place =>
    constructor
    · intro h
      cases h
    · rintro ⟨h, _⟩
      cases h

/-- Without rules of the user's own there is nothing to fail for. -/
lemma build_nil (overrides : List (String × Severity)) :
    RuleSet.build [] overrides = .ok ((RuleSet.extended []).override overrides) :=
  build_eq_ok_iff.mpr ⟨⟨List.nodup_nil, fun _ h => absurd h List.not_mem_nil⟩, rfl⟩

/-- The rules of a run are built from its settings, or from nothing without settings. -/
lemma build_of_rulesOf {settings : Option Settings} {set : RuleSet}
    (h : Detection.rulesOf settings = .ok set) :
    RuleSet.build ((settings.map Settings.customRules).getD [])
      ((settings.map Settings.severityOverrides).getD []) = .ok set := by
  cases settings with
  | none =>
    refine (build_nil []).trans ?_
    rw [override_nil, ← h, RuleSet.extended, List.map_nil, List.append_nil]
    rfl
  | some settings => exact h

section Built

variable {custom : List CustomRule} {overrides : List (String × Severity)} {set : RuleSet}

/-- The rules of a set are the built-in ones and the user's own, with the severities set for
them. -/
lemma mem_rules_of_build (h : RuleSet.build custom overrides = .ok set) {rule : Rule} :
    rule ∈ set.rules ↔
      ∃ plain, (plain ∈ Rule.builtin ∨ ∃ own ∈ custom, RuleSet.ofCustom own = plain) ∧
        RuleSet.overrideRule overrides plain = rule := by
  obtain ⟨_, rfl⟩ := build_eq_ok_iff.mp h
  simp [RuleSet.override, RuleSet.extended, or_and_right, exists_or]

/-- An id names at most one rule of a set. -/
theorem nodup_ids_of_build (h : RuleSet.build custom overrides = .ok set) : set.ids.Nodup := by
  obtain ⟨⟨hnodup, hfresh⟩, rfl⟩ := build_eq_ok_iff.mp h
  have hids : (RuleSet.extended custom).ids =
      RuleSet.default.ids ++ custom.map CustomRule.id := by
    simp [RuleSet.extended, RuleSet.ids, RuleSet.default, RuleSet.ofCustom]
  rw [ids_override, hids, List.nodup_append]
  refine ⟨nodup_builtin_ids, hnodup, ?_⟩
  intro id hid other hother heq
  obtain ⟨rule, hrule, rfl⟩ := List.mem_map.mp hother
  exact hfresh rule hrule (heq ▸ hid)

end Built

/-- A rule of the user's own may have the id of the findings about nesting, as that is the id of no
rule. -/
def elseRule : CustomRule where
  id := Nesting.ruleId
  pattern := .known { ignoreCase := true } "else"
  message := "Return early"
  severity := .low

lemma build_elseRule (overrides : List (String × Severity)) :
    RuleSet.build [elseRule] overrides =
      .ok ((RuleSet.extended [elseRule]).override overrides) := by
  have hfresh : Nesting.ruleId ∉ RuleSet.default.ids := by decide +kernel
  refine build_eq_ok_iff.mpr ⟨⟨List.nodup_singleton _, ?_⟩, rfl⟩
  intro rule hrule
  rw [List.mem_singleton.mp hrule]
  exact hfresh

end SlopLint
