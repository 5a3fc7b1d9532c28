import Mathlib.Algebra.BigOperators.Group.List.Basic
import Mathlib.Algebra.GroupWithZero.Nat
import Mathlib.Tactic.Lemma
import SlopLint.Score

/-!
# Scores by axis

On every axis a score is the sum of the weights of the rules that count against this axis, once
for each issue. So the scores of two parts of a list of issues add up to that of the list, however
it is split. The total is the sum of all weights; no rule weighs less than the default, so only
clean code has no points.
-/

namespace SlopLint

/-- What a score holds on an axis. -/
def Score.points (score : Score) : Axis → Nat
  | .utility => score.utility
  | .quality => score.quality
  | .style => score.style

/-- What an issue adds on an axis. -/
def Issue.pointsOn (axis : Axis) (issue : Issue) : Nat :=
  if Axis.ofRule issue.ruleId = axis then ruleWeight issue.ruleId else 0

lemma points_add (score : Score) (axis axis' : Axis) (weight : Nat) :
    (score.add axis weight).points axis' =
      score.points axis' + if axis = axis' then weight else 0 := by
  cases axis <;> cases axis' <;> rfl

/-- What values add on an axis, each with its weight on an axis of its own. -/
lemma points_foldl_add {α : Type} (axisOf : α → Axis) (weight : α → Nat) (values : List α)
    (score : Score) (axis : Axis) :
    (values.foldl (fun score value => score.add (axisOf value) (weight value)) score).points axis =
      score.points axis +
        (values.map fun value => if axisOf value = axis then weight value else 0).sum := by
  induction values generalizing score with
  | nil => rfl
  | cons value values ih =>
    rw [List.foldl_cons, ih, points_add, List.map_cons, List.sum_cons, Nat.add_assoc]

lemma points_empty (axis : Axis) : ({} : Score).points axis = 0 := by
  cases axis <;> rfl

lemma points_ofIssues (issues : List Issue) (axis : Axis) :
    (Score.ofIssues issues).points axis = (issues.map (Issue.pointsOn axis)).sum := by
  rw [Score.ofIssues, points_foldl_add, points_empty, Nat.zero_add]
  rfl

/-- On an axis a score adds the weights of the issues whose rules count against it. -/
theorem points_ofIssues_eq_sum_weights (issues : List Issue) (axis : Axis) :
    (Score.ofIssues issues).points axis =
      ((issues.filter fun issue => Axis.ofRule issue.ruleId = axis).map fun issue =>
        ruleWeight issue.ruleId).sum := by
  rw [points_ofIssues]
  induction issues with
  | nil => rfl
  | cons issue issues ih =>
    rw [List.map_cons, List.sum_cons, ih, Issue.pointsOn]
    by_cases h : Axis.ofRule issue.ruleId = axis <;> simp [h]

/-- The scores of both parts of a split add up, axis by axis. -/
theorem points_filter_add_points_filter_not {α : Type} (p : α → Bool) (issue : α → Issue)
    (values : List α) (axis : Axis) :
    (Score.ofIssues ((values.filter p).map issue)).points axis +
        (Score.ofIssues ((values.filter fun value => !p value).map issue)).points axis =
      (Score.ofIssues (values.map issue)).points axis := by
  simp only [points_ofIssues, List.map_map]
  have h := List.sum_map_filter_add_sum_map_filter_not (fun value => p value = true)
    (fun value => (issue value).pointsOn axis) values
  simpa [Function.comp_def] using h

/-! ### Totals -/

lemma total_eq_sum_points (score : Score) :
    score.total = score.points .utility + score.points .quality + score.points .style := rfl

/-- The total of a score is the sum of the weights, whatever their axes are. -/
theorem total_ofIssues (issues : List Issue) :
    (Score.ofIssues issues).total = (issues.map fun issue => ruleWeight issue.ruleId).sum := by
  rw [total_eq_sum_points, points_ofIssues, points_ofIssues, points_ofIssues]
  induction issues with
  | nil => rfl
  | cons issue issues ih =>
    have hissue : issue.pointsOn .utility + issue.pointsOn .quality + issue.pointsOn .style =
        ruleWeight issue.ruleId := by
      unfold Issue.pointsOn
      cases Axis.ofRule issue.ruleId <;> simp
    simp only [List.map_cons, List.sum_cons]
    omega

/-- No rule weighs less than the default. -/
lemma defaultWeight_le_ruleWeight (ruleId : String) : defaultWeight ≤ ruleWeight ruleId := by
  have htable : ∀ entry ∈ ruleWeights, defaultWeight ≤ entry.2 := by decide
  unfold ruleWeight
  cases hlookup : ruleWeights.lookup ruleId with
  | none => exact Nat.le_refl _
  | some weight =>
    obtain ⟨before, after, hsplit, _⟩ := List.lookup_eq_some_iff.mp hlookup
    exact htable (ruleId, weight) (by rw [hsplit]; simp)

/-- Every issue adds at least the default weight to the total. -/
theorem defaultWeight_mul_length_le_total (issues : List Issue) :
    defaultWeight * issues.length ≤ (Score.ofIssues issues).total := by
  rw [total_ofIssues]
  induction issues with
  | nil => exact Nat.le_refl _
  | cons issue issues ih =>
    have hweight := defaultWeight_le_ruleWeight issue.ruleId
    rw [List.map_cons, List.sum_cons, List.length_cons, Nat.mul_add]
    omega

lemma total_eq_zero_iff (issues : List Issue) :
    (Score.ofIssues issues).total = 0 ↔ issues = [] := by
  constructor
  · intro h
    have hle := defaultWeight_mul_length_le_total issues
    rw [h, defaultWeight] at hle
    exact List.length_eq_zero_iff.mp (by omega)
  · rintro rfl
    rfl

lemma verdict_eq_clean_iff (score : Score) : score.verdict = .clean ↔ score.total = 0 := by
  unfold Score.verdict
  by_cases h : score.total = 0
  · simp [h]
  · by_cases hlarge : acceptableTotal < score.total <;> simp [h, hlarge]

end SlopLint
