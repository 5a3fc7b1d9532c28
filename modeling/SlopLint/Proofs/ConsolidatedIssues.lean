import SlopLint.Proofs.Grouping

/-!
# Consolidated issues

Consolidation is a stable partition of the issues: there is one entry for each key, the entries
stand in the order in which their keys first appear, and each of them has the locations of its own
issues in their order. No issue is lost and none is counted twice.
-/

namespace SlopLint

lemma consolidate_keys (issues : List Issue) :
    (consolidate issues).map Consolidated.key = (issues.map Issue.key).eraseDups := by
  rw [← groupBy_keys, consolidate, List.map_map]
  rfl

/-- An entry has the locations of the issues with its key, in their order. -/
lemma locations_of_mem_consolidate {issues : List Issue} {entry : Consolidated}
    (h : entry ∈ consolidate issues) :
    entry.locations = (issues.filter (·.key == entry.key)).map Issue.location := by
  unfold consolidate at h
  rw [groupBy_eq, List.map_map] at h
  obtain ⟨key, _, rfl⟩ := List.mem_map.mp h
  rfl

/-- A weight on keys may be summed over the issues, or over the entries by their occurrences. -/
theorem sum_consolidate (weight : IssueKey → Nat) (issues : List Issue) :
    ((consolidate issues).map fun entry => weight entry.key * entry.occurrences).sum =
      (issues.map fun issue => weight issue.key).sum := by
  rw [← sum_groupBy Issue.key (fun key _ => weight key), consolidate, List.map_map]
  congr 1
  apply List.map_congr_left
  rintro ⟨key, members⟩ _
  simp [Consolidated.occurrences, Nat.mul_comm]

lemma exists_mem_consolidate_iff {issues : List Issue} {key : IssueKey} :
    (∃ entry ∈ consolidate issues, entry.key = key) ↔ ∃ issue ∈ issues, issue.key = key := by
  rw [← List.mem_map, consolidate_keys, List.mem_eraseDups, List.mem_map]

lemma locations_ne_nil_of_mem_consolidate {issues : List Issue} {entry : Consolidated}
    (h : entry ∈ consolidate issues) : entry.locations ≠ [] := by
  obtain ⟨issue, hissue, hkey⟩ := exists_mem_consolidate_iff.mp ⟨entry, h, rfl⟩
  have hmember : issue ∈ issues.filter (·.key == entry.key) := by simp [hissue, hkey]
  rw [locations_of_mem_consolidate h]
  exact List.ne_nil_of_mem (List.mem_map_of_mem hmember)

/-- The entries of a consolidation are those of the keys of the issues, each key once and in the
order of first appearance, with the locations of the issues that have it. -/
theorem consolidate_partitions_issues (issues : List Issue) :
    let entries := consolidate issues
    let keys := issues.map Issue.key
    (entries.map Consolidated.key).Nodup ∧
    entries.Pairwise (fun a b => keys.idxOf a.key < keys.idxOf b.key) ∧
    (∀ key, (∃ entry ∈ entries, entry.key = key) ↔ ∃ issue ∈ issues, issue.key = key) ∧
    (∀ entry ∈ entries, entry.locations ≠ [] ∧
      entry.locations = (issues.filter fun issue => issue.key = entry.key).map fun issue =>
        toString issue.line ++ ":" ++ toString issue.column) ∧
    (entries.map Consolidated.occurrences).sum = issues.length := by
  intro entries keys
  have hkeys : entries.map Consolidated.key = keys.eraseDups := consolidate_keys issues
  refine ⟨?_, ?_, fun key => exists_mem_consolidate_iff, ?_, ?_⟩
  · rw [hkeys]
    exact nodup_eraseDups keys
  · have horder := pairwise_idxOf_eraseDups keys
    rwa [← hkeys, List.pairwise_map] at horder
  · intro entry hentry
    exact ⟨locations_ne_nil_of_mem_consolidate hentry, locations_of_mem_consolidate hentry⟩
  · have hsum := sum_consolidate (fun _ => 1) issues
    simpa using hsum

end SlopLint
