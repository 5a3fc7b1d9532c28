import SlopLint.Proofs.ConsolidatedIssues
import SlopLint.Proofs.ScoreAxes

/-!
# Scores as measures

A score measures a list of issues: it does not depend on their order, and it adds up over parts of
the list. So it can also be taken from the entries of the consolidation, each of which counts as
often as it occurs. Every issue counts for something.
-/

namespace SlopLint

/-- Scores are added axis by axis. -/
instance : Add Score where
  add a b := ⟨a.utility + b.utility, a.quality + b.quality, a.style + b.style⟩

lemma points_plus (a b : Score) (axis : Axis) :
    (a + b).points axis = a.points axis + b.points axis := by
  cases axis <;> rfl

/-- A score is what it holds on its axes. -/
lemma eq_of_points {a b : Score} (h : ∀ axis, a.points axis = b.points axis) : a = b := by
  obtain ⟨utility, quality, style⟩ := a
  obtain ⟨utility', quality', style'⟩ := b
  exact Score.mk.injEq .. ▸ ⟨h .utility, h .quality, h .style⟩

/-- The score of entries: on the axis of its rule, an entry adds the weight of the rule as often as
it occurs. -/
def Score.ofEntries (entries : List Consolidated) : Score :=
  entries.foldl (fun score entry =>
    score.add (.ofRule entry.key.ruleId) (ruleWeight entry.key.ruleId * entry.occurrences)) {}

lemma points_ofEntries (entries : List Consolidated) (axis : Axis) :
    (Score.ofEntries entries).points axis =
      (entries.map fun entry =>
        if Axis.ofRule entry.key.ruleId = axis then
          ruleWeight entry.key.ruleId * entry.occurrences
        else 0).sum := by
  rw [Score.ofEntries, points_foldl_add, points_empty, Nat.zero_add]

lemma ofIssues_perm {issues reordered : List Issue} (h : reordered.Perm issues) :
    Score.ofIssues reordered = Score.ofIssues issues := by
  apply eq_of_points
  intro axis
  rw [points_ofIssues, points_ofIssues]
  exact (h.map _).sum_eq

lemma ofIssues_append (front back : List Issue) :
    Score.ofIssues (front ++ back) = Score.ofIssues front + Score.ofIssues back := by
  apply eq_of_points
  intro axis
  rw [points_plus, points_ofIssues, points_ofIssues, points_ofIssues, List.map_append,
    List.sum_append]

/-- On every axis, the weights of the entries are those of their issues. -/
lemma ofEntries_consolidate (issues : List Issue) :
    Score.ofEntries (consolidate issues) = Score.ofIssues issues := by
  apply eq_of_points
  intro axis
  have hsum := sum_consolidate
    (fun key => if Axis.ofRule key.ruleId = axis then ruleWeight key.ruleId else 0) issues
  rw [points_ofEntries, points_ofIssues]
  simp only [ite_mul, Nat.zero_mul] at hsum
  exact hsum

/-- A score is a measure of issues: the order does not matter, parts add up, the consolidation has
the same score, and at least three points come from every issue, so that no other list is clean
than the empty one. -/
theorem score_measures_issues :
    (∀ issues reordered : List Issue, reordered.Perm issues →
      Score.ofIssues reordered = Score.ofIssues issues) ∧
    (∀ front back : List Issue,
      Score.ofIssues (front ++ back) = Score.ofIssues front + Score.ofIssues back) ∧
    ∀ issues : List Issue,
      Score.ofIssues issues = Score.ofEntries (consolidate issues) ∧
      3 * issues.length ≤ (Score.ofIssues issues).total ∧
      ((Score.ofIssues issues).total = 0 ↔ issues = []) ∧
      ((Score.ofIssues issues).verdict = .clean ↔ issues = []) := by
  refine ⟨fun _ _ => ofIssues_perm, ofIssues_append, fun issues => ?_⟩
  refine ⟨(ofEntries_consolidate issues).symm, defaultWeight_mul_length_le_total issues,
    total_eq_zero_iff issues, ?_⟩
  rw [verdict_eq_clean_iff]
  exact total_eq_zero_iff issues

/-- A guess in front of a loose type, or behind it: the guess counts for quality, not for its
comment. -/
theorem score_measures_issues_guessLast :
    let guess : Issue := ⟨"assumption_comment", "a.ts", 1, 4, "assuming", "m", "high"⟩
    let loose : Issue := ⟨"any_type_usage", "a.ts", 2, 8, ": any", "m", "high"⟩
    [loose, guess].Perm [guess, loose] ∧
      Score.ofIssues [loose, guess] = Score.ofIssues [guess, loose] ∧
      Score.ofIssues [guess, loose] = ⟨0, 11, 15⟩ := by
  intro guess loose
  have hperm : [loose, guess].Perm [guess, loose] := List.Perm.swap guess loose []
  exact ⟨hperm, score_measures_issues.1 [guess, loose] [loose, guess] hperm, by decide⟩

end SlopLint
