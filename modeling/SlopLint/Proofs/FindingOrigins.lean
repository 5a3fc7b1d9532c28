import Mathlib.Data.List.Basic
import Mathlib.Data.List.Induction
import Mathlib.Tactic.Lemma
import SlopLint.Detection

/-!
# Origins of findings

Every finding of a scan comes from one line and from one origin, which is a rule of the set or the
search for nested control structures. The findings of a file are those of its lines in order, and
on a line those of the origins in order; the origin decides the rule id and the severity.
-/

namespace SlopLint

open Text

/-- What a finding comes from: a rule, or the search for nested control structures. -/
inductive Origin where
  | rule (rule : Rule)
  | nesting

namespace Origin

/-- The rule id of the findings of an origin. -/
def ruleId : Origin → String
  | .rule r => r.id
  | .nesting => Nesting.ruleId

/-- The severity of the findings of an origin. -/
def severity : Origin → Severity
  | .rule r => r.severity
  | .nesting => .medium

/-- The findings of an origin on a line. -/
def findings (quiet : Bool) (file : String) (lines : List Line) (number : Int) (line : Line) :
    Origin → List Issue
  | .rule r => Scan.ruleIssues (.ofPath file) quiet file lines number line r
  | .nesting => Nesting.issues file number line

end Origin

/-- The origins of the findings of a rule set, in the order in which a line is searched. -/
def RuleSet.origins (set : RuleSet) : List Origin :=
  set.rules.map .rule ++ [.nesting]

lemma rule_mem_origins {set : RuleSet} {rule : Rule} :
    .rule rule ∈ set.origins ↔ rule ∈ set.rules := by
  simp [RuleSet.origins]

/-- The findings of an origin on the line at a position of a file, counted from zero. -/
def Scan.findingsAt (quiet : Bool) (file content : String) (origin : Origin) (k : Nat) :
    List Issue :=
  match (Text.lines content.toList)[k]? with
  | none => []
  | some line => origin.findings quiet file (Text.lines content.toList) (k + 1 : Nat) line

/-! ### The findings of a file by line and origin -/

lemma lineIssues_eq_flatMap (set : RuleSet) (quiet : Bool) (file : String) (lines : List Line)
    (number : Int) (line : Line) :
    Scan.lineIssues set quiet file lines number line =
      set.origins.flatMap (Origin.findings quiet file lines number line) := by
  simp [Scan.lineIssues, RuleSet.origins, List.flatMap_map, Origin.findings]

lemma flatMap_zipIdx {α β : Type} (f : α × Nat → List β) (entries : List α) :
    entries.zipIdx.flatMap f =
      (List.range entries.length).flatMap fun k => (entries[k]?).elim [] fun a => f (a, k) := by
  induction entries using List.reverseRecOn with
  | nil => simp
  | append_singleton entries a ih =>
    rw [List.zipIdx_append, List.flatMap_append, ih, List.length_append, List.length_singleton,
      List.range_succ, List.flatMap_append]
    congr 1
    · apply List.flatMap_congr
      intro k hk
      rw [List.getElem?_append_left (List.mem_range.mp hk)]
    · simp

/-- A file is searched line by line, and every line origin by origin. -/
theorem fileIssues_eq_findingsAt (set : RuleSet) (quiet : Bool) (file content : String) :
    Scan.fileIssues set quiet file content =
      (List.range (Text.lines content.toList).length).flatMap fun k =>
        set.origins.flatMap fun origin => Scan.findingsAt quiet file content origin k := by
  rw [Scan.fileIssues, flatMap_zipIdx]
  apply List.flatMap_congr
  intro k _
  cases hline : (Text.lines content.toList)[k]? with
  | none => simp [Scan.findingsAt, hline]
  | some line =>
    simp only [Option.elim_some, lineIssues_eq_flatMap]
    apply List.flatMap_congr
    intro origin _
    simp only [Scan.findingsAt, hline]

lemma mem_findingsAt {quiet : Bool} {file content : String} {origin : Origin} {k : Nat}
    {issue : Issue} :
    issue ∈ Scan.findingsAt quiet file content origin k ↔
      ∃ line, (Text.lines content.toList)[k]? = some line ∧
        issue ∈ origin.findings quiet file (Text.lines content.toList) (k + 1 : Nat) line := by
  unfold Scan.findingsAt
  cases (Text.lines content.toList)[k]? <;> simp

lemma mem_fileIssues {set : RuleSet} {quiet : Bool} {file content : String} {issue : Issue} :
    issue ∈ Scan.fileIssues set quiet file content ↔
      ∃ k, ∃ origin ∈ set.origins, issue ∈ Scan.findingsAt quiet file content origin k := by
  simp only [fileIssues_eq_findingsAt, List.mem_flatMap, List.mem_range]
  constructor
  · rintro ⟨k, _, origin, horigin, hissue⟩
    exact ⟨k, origin, horigin, hissue⟩
  · rintro ⟨k, origin, horigin, hissue⟩
    obtain ⟨line, hline, _⟩ := mem_findingsAt.mp hissue
    exact ⟨k, (List.getElem?_eq_some_iff.mp hline).1, origin, horigin, hissue⟩

lemma nesting_mem_fileIssues (set : RuleSet) (quiet : Bool) {file content : String} {k : Nat}
    {line : Line} {issue : Issue} (hline : (Text.lines content.toList)[k]? = some line)
    (hissue : issue ∈ Nesting.issues file (k + 1 : Nat) line) :
    issue ∈ Scan.fileIssues set quiet file content :=
  mem_fileIssues.mpr ⟨k, .nesting, by simp [RuleSet.origins],
    mem_findingsAt.mpr ⟨line, hline, hissue⟩⟩

lemma mem_filesIssues {set : RuleSet} {quiet : Bool} {files : List SourceFile} {issue : Issue} :
    issue ∈ Detection.filesIssues set quiet files ↔
      ∃ file ∈ files, issue ∈ Scan.fileIssues set quiet file.path file.content :=
  List.mem_flatMap

/-! ### What the origin decides -/

lemma mem_ruleIssues {kinds : FileKinds} {quiet : Bool} {file : String} {lines : List Line}
    {number : Int} {line : Line} {rule : Rule} {issue : Issue} :
    issue ∈ Scan.ruleIssues kinds quiet file lines number line rule ↔
      ∃ found ∈ Scan.ruleMatches file number line rule,
        Scan.counts rule kinds quiet lines found = true ∧ Scan.toIssue rule found = issue := by
  simp only [Scan.ruleIssues, List.mem_map, List.mem_filter, and_assoc]

lemma mem_nesting_iff {file : String} {number : Int} {line : Line} {issue : Issue} :
    issue ∈ Nesting.issues file number line ↔
      1 < Nesting.openerCount line ∧
        issue = Nesting.issue file number line 1 Nesting.denseMessage ∨
      Nesting.isDeep line = true ∧
        issue = Nesting.issue file number line (Nesting.indent line + 1) Nesting.deepMessage := by
  unfold Nesting.issues
  by_cases hdense : 1 < Nesting.openerCount line <;> cases Nesting.isDeep line <;> simp [hdense]

lemma eq_issue_of_mem_nesting {file : String} {number : Int} {line : Line} {issue : Issue}
    (h : issue ∈ Nesting.issues file number line) :
    ∃ column message, issue = Nesting.issue file number line column message := by
  rcases mem_nesting_iff.mp h with ⟨-, rfl⟩ | ⟨-, rfl⟩
  · exact ⟨_, _, rfl⟩
  · exact ⟨_, _, rfl⟩

lemma dense_mem_nesting (file : String) (number : Int) {line : Line}
    (h : 1 < Nesting.openerCount line) :
    Nesting.issue file number line 1 Nesting.denseMessage ∈ Nesting.issues file number line :=
  mem_nesting_iff.mpr (.inl ⟨h, rfl⟩)

section Findings

variable {quiet : Bool} {file : String} {lines : List Line} {number : Int} {line : Line}
  {origin : Origin} {issue : Issue}

lemma ruleId_of_mem_findings (h : issue ∈ origin.findings quiet file lines number line) :
    issue.ruleId = origin.ruleId := by
  cases origin with
  | rule r =>
    obtain ⟨found, _, _, rfl⟩ := mem_ruleIssues.mp h
    rfl
  | nesting =>
    obtain ⟨column, message, rfl⟩ := eq_issue_of_mem_nesting h
    rfl

lemma severity_of_mem_findings (h : issue ∈ origin.findings quiet file lines number line) :
    issue.severity = origin.severity.name := by
  cases origin with
  | rule r =>
    obtain ⟨found, _, _, rfl⟩ := mem_ruleIssues.mp h
    rfl
  | nesting =>
    obtain ⟨column, message, rfl⟩ := eq_issue_of_mem_nesting h
    rfl

lemma line_of_mem_findings (h : issue ∈ origin.findings quiet file lines number line) :
    issue.line = number := by
  cases origin with
  | rule r =>
    obtain ⟨found, hfound, _, rfl⟩ := mem_ruleIssues.mp h
    obtain ⟨occurrence, _, rfl⟩ := List.mem_map.mp hfound
    rfl
  | nesting =>
    obtain ⟨column, message, rfl⟩ := eq_issue_of_mem_nesting h
    rfl

lemma file_of_mem_findings (h : issue ∈ origin.findings quiet file lines number line) :
    issue.file = file := by
  cases origin with
  | rule r =>
    obtain ⟨found, hfound, _, rfl⟩ := mem_ruleIssues.mp h
    obtain ⟨occurrence, _, rfl⟩ := List.mem_map.mp hfound
    rfl
  | nesting =>
    obtain ⟨column, message, rfl⟩ := eq_issue_of_mem_nesting h
    rfl

end Findings

lemma file_of_mem_findingsAt {quiet : Bool} {file content : String} {origin : Origin} {k : Nat}
    {issue : Issue} (h : issue ∈ Scan.findingsAt quiet file content origin k) :
    issue.file = file := by
  obtain ⟨line, _, hfound⟩ := mem_findingsAt.mp h
  exact file_of_mem_findings hfound

lemma exists_origin_of_mem_filesIssues {set : RuleSet} {quiet : Bool} {files : List SourceFile}
    {issue : Issue} (h : issue ∈ Detection.filesIssues set quiet files) :
    ∃ origin ∈ set.origins, ∃ file lines number line,
      issue ∈ origin.findings quiet file lines number line := by
  obtain ⟨file, _, hissue⟩ := mem_filesIssues.mp h
  obtain ⟨k, origin, horigin, hat⟩ := mem_fileIssues.mp hissue
  obtain ⟨line, _, hfound⟩ := mem_findingsAt.mp hat
  exact ⟨origin, horigin, _, _, _, _, hfound⟩

/-- No finding of a run has a severity outside of the four. -/
theorem severity_of_mem_filesIssues {set : RuleSet} {quiet : Bool} {files : List SourceFile}
    {issue : Issue} (h : issue ∈ Detection.filesIssues set quiet files) :
    ∃ severity : Severity, issue.severity = severity.name := by
  obtain ⟨origin, _, _, _, _, _, hfound⟩ := exists_origin_of_mem_filesIssues h
  exact ⟨origin.severity, severity_of_mem_findings hfound⟩

/-! ### Findings with the same message -/

lemma getLast?_findingMessage (rule : Rule) :
    rule.findingMessage.toList.getLast? = some ')' := by
  have hend : rule.findingMessage = rule.message ++ " (" ++ rule.description ++ ")" := rfl
  rw [hend, String.toList_append]
  exact List.getLast?_concat

lemma getLast?_message_of_mem_nesting {file : String} {number : Int} {line : Line} {issue : Issue}
    (h : issue ∈ Nesting.issues file number line) : issue.message.toList.getLast? = some '.' := by
  have hdense : Nesting.denseMessage.toList.getLast? = some '.' := by decide +kernel
  have hdeep : Nesting.deepMessage.toList.getLast? = some '.' := by decide +kernel
  rcases mem_nesting_iff.mp h with ⟨-, rfl⟩ | ⟨-, rfl⟩
  · exact hdense
  · exact hdeep

/-- A rule may share its id with the search for nested control structures, but then its messages
end in another way. -/
lemma message_ne_of_mem_nesting {rule : Rule} {quiet : Bool} {file file' : String}
    {lines : List Line} {number number' : Int} {line line' : Line} {a b : Issue}
    (ha : a ∈ Origin.findings quiet file lines number line (.rule rule))
    (hb : b ∈ Nesting.issues file' number' line') : a.message ≠ b.message := by
  intro heq
  obtain ⟨found, _, _, rfl⟩ := mem_ruleIssues.mp ha
  have hpoint := getLast?_message_of_mem_nesting hb
  have hbracket : (Scan.toIssue rule found).message.toList.getLast? = some ')' :=
    getLast?_findingMessage rule
  rw [← heq, hbracket] at hpoint
  exact absurd hpoint (by decide)

/-! ### Findings of files with their origins -/

lemma lt_length_of_mem_findingsAt {quiet : Bool} {file content : String} {origin : Origin} {k : Nat}
    {issue : Issue} (h : issue ∈ Scan.findingsAt quiet file content origin k) :
    k < (Text.lines content.toList).length := by
  obtain ⟨line, hline, _⟩ := mem_findingsAt.mp h
  exact (List.getElem?_eq_some_iff.mp hline).1

/-- The findings of files for a list of origins, each with the origin that it comes from. -/
def Detection.attributed (origins : List Origin) (quiet : Bool) (files : List SourceFile) :
    List (Origin × Issue) :=
  files.flatMap fun file =>
    (List.range (Text.lines file.content.toList).length).flatMap fun k =>
      origins.flatMap fun origin =>
        (Scan.findingsAt quiet file.path file.content origin k).map (Prod.mk origin)

/-- The issues of a run are the findings of the origins of its rule set. -/
theorem map_snd_attributed (set : RuleSet) (quiet : Bool) (files : List SourceFile) :
    (Detection.attributed set.origins quiet files).map Prod.snd =
      Detection.filesIssues set quiet files := by
  unfold Detection.attributed Detection.filesIssues
  simp only [List.map_flatMap, List.map_map, fileIssues_eq_findingsAt, Function.comp_def,
    List.map_id']

lemma mem_attributed {origins : List Origin} {quiet : Bool} {files : List SourceFile}
    {origin : Origin} {issue : Issue} :
    (origin, issue) ∈ Detection.attributed origins quiet files ↔
      origin ∈ origins ∧ ∃ file ∈ files, ∃ k,
        issue ∈ Scan.findingsAt quiet file.path file.content origin k := by
  simp only [Detection.attributed, List.mem_flatMap, List.mem_map, List.mem_range, Prod.mk.injEq]
  constructor
  · rintro ⟨file, hfile, k, _, _, horigin, _, hissue, rfl, rfl⟩
    exact ⟨horigin, file, hfile, k, hissue⟩
  · rintro ⟨horigin, file, hfile, k, hissue⟩
    exact ⟨file, hfile, k, lt_length_of_mem_findingsAt hissue, origin, horigin, issue, hissue,
      rfl, rfl⟩

lemma flatMap_filter {α β : Type} (p : α → Bool) (f : α → List β) (values : List α) :
    (values.filter p).flatMap f = values.flatMap fun a => if p a then f a else [] := by
  induction values with
  | nil => rfl
  | cons a values ih => cases hp : p a <;> simp [hp, ih]

/-- To keep the findings of some origins is to look for those origins alone. -/
theorem filter_attributed (p : Origin → Bool) (origins : List Origin) (quiet : Bool)
    (files : List SourceFile) :
    (Detection.attributed origins quiet files).filter (fun entry => p entry.1) =
      Detection.attributed (origins.filter p) quiet files := by
  have hone : ∀ (origin : Origin) (issues : List Issue),
      (issues.map (Prod.mk origin)).filter (fun entry => p entry.1) =
        if p origin then issues.map (Prod.mk origin) else [] := by
    intro origin issues
    cases hp : p origin <;> simp [List.filter_map, Function.comp_def, hp]
  unfold Detection.attributed
  simp only [List.filter_flatMap, hone, flatMap_filter]

end SlopLint
