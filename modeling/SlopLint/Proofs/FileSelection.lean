import SlopLint.Proofs.ReportTotals
import SlopLint.Proofs.ScoreAxes

/-!
# Runs on some of the files

Files are scanned independently of each other. So a run on some of them finds what the run on all
of them finds there, has the same entries for them with the same locations, and the scores of the
two halves of a split add up. Paths may repeat: the files of one path are selected together.
-/

namespace SlopLint

lemma file_of_mem_fileIssues {set : RuleSet} {quiet : Bool} {file content : String}
    {issue : Issue} (h : issue ∈ Scan.fileIssues set quiet file content) : issue.file = file := by
  obtain ⟨k, origin, _, hat⟩ := mem_fileIssues.mp h
  exact file_of_mem_findingsAt hat

/-- The issues in some of the files are those that a scan of these files alone finds. -/
theorem filter_filesIssues (selects : String → Bool) (set : RuleSet) (quiet : Bool)
    (files : List SourceFile) :
    (Detection.filesIssues set quiet files).filter (fun issue => selects issue.file) =
      Detection.filesIssues set quiet (files.filter fun file => selects file.path) := by
  have hone : ∀ file : SourceFile,
      (Scan.fileIssues set quiet file.path file.content).filter (fun issue => selects issue.file) =
        if selects file.path then Scan.fileIssues set quiet file.path file.content else [] := by
    intro file
    have hfile : (Scan.fileIssues set quiet file.path file.content).filter
        (fun issue => selects issue.file) =
        (Scan.fileIssues set quiet file.path file.content).filter fun _ => selects file.path := by
      apply List.filter_congr
      intro issue hissue
      rw [file_of_mem_fileIssues hissue]
    rw [hfile]
    cases selects file.path <;> simp
  unfold Detection.filesIssues
  simp only [List.filter_flatMap, hone, flatMap_filter]

/-- The entries about some of the files are the consolidation of the issues in these files. -/
theorem filter_consolidate (selects : String → Bool) (issues : List Issue) :
    (consolidate issues).filter (fun entry => selects entry.key.file) =
      consolidate (issues.filter fun issue => selects issue.file) := by
  have hgroups := groupBy_filter Issue.key (fun key => selects key.file) issues
  unfold consolidate
  rw [List.filter_map]
  exact congrArg (List.map _) hgroups.symm

/-- A run on the selected files finds what the run on all files finds in them, and the scores of
the selected and the other files add up. -/
theorem selected_files_run_alone {settings : Option Settings} {quiet : Bool}
    {files : List SourceFile} {result : Detection} (selects : String → Bool)
    (hrun : Detection.run settings quiet files = .ok result) :
    ∃ chosen others,
      Detection.run settings quiet (files.filter fun file => selects file.path) = .ok chosen ∧
      Detection.run settings quiet (files.filter fun file => !selects file.path) = .ok others ∧
      chosen.issues = result.issues.filter (fun issue => selects issue.file) ∧
      chosen.consolidated = result.consolidated.filter (fun entry => selects entry.key.file) ∧
      (∀ axis, chosen.score.points axis + others.score.points axis = result.score.points axis) ∧
      chosen.filesScanned + others.filesScanned = result.filesScanned := by
  obtain ⟨set, hset, rfl⟩ := run_eq_ok hrun
  refine ⟨_, _, run_of_rules quiet _ hset, run_of_rules quiet _ hset, ?_, ?_, ?_, ?_⟩
  · exact (filter_filesIssues selects set quiet files).symm
  · have hentries := filter_consolidate selects (Detection.filesIssues set quiet files)
    rw [filter_filesIssues] at hentries
    exact hentries.symm
  · intro axis
    have hsplit := points_filter_add_points_filter_not (fun issue : Issue => selects issue.file)
      id (Detection.filesIssues set quiet files) axis
    simp only [List.map_id] at hsplit
    rw [filter_filesIssues selects, filter_filesIssues (fun path => !selects path)] at hsplit
    exact hsplit
  · exact (List.length_eq_length_filter_add _).symm

/-- The file that is selected comes twice, with the other one between. -/
theorem selected_files_run_alone_repeatedPath :
    ∃ result chosen,
      Detection.run none false [⟨"a.ts", "let a: any;"⟩, ⟨"b.ts", "let b: any;"⟩,
        ⟨"a.ts", "let a: any;"⟩] = .ok result ∧
      Detection.run none false [⟨"a.ts", "let a: any;"⟩, ⟨"a.ts", "let a: any;"⟩] = .ok chosen ∧
      chosen.issues = result.issues.filter (fun issue => issue.file == "a.ts") ∧
      chosen.consolidated = result.consolidated.filter (fun entry => entry.key.file == "a.ts") ∧
      ∀ axis, chosen.score.points axis ≤ result.score.points axis := by
  obtain ⟨chosen, others, hchosen, _, hissues, hentries, hpoints, _⟩ :=
    @selected_files_run_alone none false [⟨"a.ts", "let a: any;"⟩, ⟨"b.ts", "let b: any;"⟩,
      ⟨"a.ts", "let a: any;"⟩] _ (· == "a.ts") rfl
  refine ⟨_, chosen, rfl, hchosen, hissues, hentries, ?_⟩
  intro axis
  rw [← hpoints axis]
  exact Nat.le_add_right _ _

end SlopLint
