import SlopLint.Proofs.FindingOrigins
import SlopLint.Proofs.GuardedScope
import SlopLint.Proofs.RuleSets

/-!
# Matches judged one by one

A scan has each rule and the kinds of its file at hand. The same findings come out when all matches
of a line are taken together and each is judged for itself: its rule is looked up by its id, and the
kinds of its file are told by its path. On that way no rule and no line is ever missing.
-/

namespace SlopLint

open Text

/-! ### Lines inside of the file -/

section Inside

variable {file : String} {lines : List Line} {k : Nat} {column : Int}

lemma previousLine_succeeds (hk : k < lines.length) :
    Succeeds (Site.previousLine ⟨file, lines, k, column⟩) := by
  unfold Site.previousLine
  dsimp only
  cases k with
  | zero => exact ok_succeeds []
  | succ i =>
    have hback : ((i + 1 : Nat) : Int) - 1 = (i : Nat) := by omega
    rw [hback]
    exact ite_succeeds (Scope.lineAt_succeeds (by omega)) (ok_succeeds [])

lemma isAcknowledged_succeeds (hk : k < lines.length) :
    Succeeds (Site.isAcknowledged ⟨file, lines, k, column⟩) := by
  refine bind_succeeds (Scope.lineAt_succeeds hk) fun _ => ?_
  refine ite_succeeds (ok_succeeds true) ?_
  exact bind_succeeds (previousLine_succeeds hk) fun _ => ok_succeeds _

lemma excusesLog_succeeds (hk : k < lines.length) :
    Succeeds (Site.excusesLog ⟨file, lines, k, column⟩) := by
  refine bind_succeeds (Scope.lineAt_succeeds hk) fun _ => ite_succeeds ?_ (ok_succeeds _)
  exact bind_succeeds (Scope.isGuarded_succeeds _ hk) fun _ => ok_succeeds _

lemma excusesHedge_succeeds (hk : k < lines.length) :
    Succeeds (Site.excusesHedge ⟨file, lines, k, column⟩) := by
  unfold Site.excusesHedge
  refine ite_succeeds (ok_succeeds true) ?_
  exact bind_succeeds (Scope.lineAt_succeeds hk) fun _ => ok_succeeds _

lemma isExcused_succeeds (id : String) (hk : k < lines.length) :
    Succeeds (Site.isExcused ⟨file, lines, k, column⟩ id) := by
  have hline (f : Line → Bool) :
      Succeeds (do pure (f (← Site.line ⟨file, lines, k, column⟩))) :=
    bind_succeeds (Scope.lineAt_succeeds hk) fun _ => ok_succeeds _
  unfold Site.isExcused
  refine ite_succeeds (hline _) (ite_succeeds (hline _) (ite_succeeds (hline _) ?_))
  refine ite_succeeds (excusesLog_succeeds hk) (ite_succeeds (excusesHedge_succeeds hk) ?_)
  exact ite_succeeds (ok_succeeds _) (ok_succeeds false)

/-- A match on a line of the file can always be judged. -/
theorem accepts_succeeds (subject : Subject) (kinds : FileKinds) (quiet : Bool)
    (hk : k < lines.length) : Succeeds (accepts subject kinds quiet ⟨file, lines, k, column⟩) := by
  unfold accepts
  refine ite_succeeds (ok_succeeds false) (ite_succeeds (ok_succeeds false) ?_)
  refine bind_succeeds (ite_succeeds (isAcknowledged_succeeds hk) (ok_succeeds false)) fun _ => ?_
  refine ite_succeeds (ok_succeeds false) ?_
  refine bind_succeeds (isExcused_succeeds _ hk) fun _ => ite_succeeds (ok_succeeds false) ?_
  refine bind_succeeds (ite_succeeds (Scope.isCallHandled_succeeds hk) (ok_succeeds false))
    fun _ => ite_succeeds (ok_succeeds false) ?_
  exact ite_succeeds (ok_succeeds false) (ok_succeeds true)

end Inside

/-! ### Rules looked up by their ids -/

/-- Where ids are not shared, the id of a rule finds it. -/
lemma get?_of_mem {set : RuleSet} (h : set.ids.Nodup) {rule : Rule} (hrule : rule ∈ set.rules) :
    set.get? rule.id = some rule := by
  cases hget : set.get? rule.id with
  | none =>
    have hnone := List.find?_eq_none.mp hget rule hrule
    simp at hnone
  | some other =>
    have hid : other.id = rule.id := by simpa using List.find?_some hget
    rw [List.inj_on_of_nodup_map h (List.mem_of_find?_eq_some hget) hrule hid]

namespace Scan

/-- Why a match cannot be judged: there is no rule of its id, or a line is missing. -/
inductive JudgeFault where
  | unknownRule (id : String)
  | missingLine (fault : Scope.OutOfRange)

/-- The issue that a match becomes, from the rule that its id names and the kinds of file that its
path tells; there is none when an exception covers the match. -/
def judge (set : RuleSet) (quiet : Bool) (lines : List Line) (found : Match) :
    Except JudgeFault (Option Issue) :=
  match set.get? found.ruleId with
  | none => .error (.unknownRule found.ruleId)
  | some rule =>
    match accepts rule.subject (.ofPath found.file) quiet (site lines found) with
    | .error fault => .error (.missingLine fault)
    | .ok counted => .ok (if counted then some (toIssue rule found) else none)

/-- The issues of a line, from its matches judged one by one. -/
def judgeLine (set : RuleSet) (quiet : Bool) (file : String) (lines : List Line) (number : Int)
    (line : Line) : Except JudgeFault (List Issue) := do
  let judged ← (lineMatches file number set.rules line).mapM (judge set quiet lines)
  pure (judged.filterMap id ++ Nesting.issues file number line)

/-- The issues of a file, line by line. -/
def judgeFile (set : RuleSet) (quiet : Bool) (file content : String) :
    Except JudgeFault (List Issue) := do
  let lines := Text.lines content.toList
  let judged ← lines.zipIdx.mapM fun (line, i) =>
    judgeLine set quiet file lines (i + 1 : Nat) line
  pure judged.flatten

end Scan

/-- The issue that a match of a rule becomes, unless an exception covers it. -/
def Scan.issueOf? (rule : Rule) (kinds : FileKinds) (quiet : Bool) (lines : List Line)
    (found : Match) : Option Issue :=
  if Scan.counts rule kinds quiet lines found then some (Scan.toIssue rule found) else none

section Judged

variable {set : RuleSet} {quiet : Bool} {file : String} {lines : List Line} {k : Nat} {line : Line}

/-- On a line of the file, a match of a rule is judged as the scan does it. -/
lemma judge_of_mem (hset : set.ids.Nodup) (hk : k < lines.length) {rule : Rule}
    (hrule : rule ∈ set.rules) {found : Match}
    (hfound : found ∈ Scan.ruleMatches file (k + 1 : Nat) line rule) :
    Scan.judge set quiet lines found =
      .ok (Scan.issueOf? rule (.ofPath file) quiet lines found) := by
  obtain ⟨occurrence, _, rfl⟩ := List.mem_map.mp hfound
  have hindex : ((k + 1 : Nat) : Int) - 1 = k := by omega
  obtain ⟨counted, hcounted⟩ := @accepts_succeeds file lines k (occurrence.start + 1)
    rule.subject (.ofPath file) quiet hk
  unfold Scan.judge Scan.issueOf? Scan.counts Scan.site
  dsimp only
  rw [get?_of_mem hset hrule, hindex]
  dsimp only
  rw [hcounted]

lemma ruleIssues_eq_filterMap (kinds : FileKinds) (number : Int) (rule : Rule) :
    Scan.ruleIssues kinds quiet file lines number line rule =
      (Scan.ruleMatches file number line rule).filterMap
        (Scan.issueOf? rule kinds quiet lines) := by
  unfold Scan.ruleIssues
  induction Scan.ruleMatches file number line rule with
  | nil => rfl
  | cons found others ih =>
    cases hcounts : Scan.counts rule kinds quiet lines found <;>
      simp [Scan.issueOf?, hcounts, ih]

/-- A line of the file gives the same issues both ways. -/
lemma judgeLine_eq_lineIssues (hset : set.ids.Nodup) (hk : k < lines.length) :
    Scan.judgeLine set quiet file lines (k + 1 : Nat) line =
      .ok (Scan.lineIssues set quiet file lines (k + 1 : Nat) line) := by
  have hrule : ∀ rule ∈ set.rules,
      (Scan.ruleMatches file (k + 1 : Nat) line rule).mapM (Scan.judge set quiet lines) =
        .ok ((Scan.ruleMatches file (k + 1 : Nat) line rule).map
          (Scan.issueOf? rule (.ofPath file) quiet lines)) :=
    fun rule hrule => mapM_eq_ok_map fun found hfound => judge_of_mem hset hk hrule hfound
  have hissues : Scan.ruleIssues (.ofPath file) quiet file lines (k + 1 : Nat) line =
      fun rule => (Scan.ruleMatches file (k + 1 : Nat) line rule).filterMap
        (Scan.issueOf? rule (.ofPath file) quiet lines) := by
    funext rule
    exact ruleIssues_eq_filterMap _ _ rule
  refine bind_eq_ok_iff.mpr ⟨_, mapM_flatMap_eq_ok hrule, ?_⟩
  simp only [Scan.lineIssues, hissues, List.filterMap_flatMap, List.filterMap_map,
    Function.id_comp]
  rfl

end Judged

/-- Judging the matches of a file one by one never fails and gives the issues of its scan. -/
theorem judgeFile_eq_fileIssues {custom : List CustomRule} {overrides : List (String × Severity)}
    {set : RuleSet} (hbuild : RuleSet.build custom overrides = .ok set) (quiet : Bool)
    (file content : String) :
    Scan.judgeFile set quiet file content = .ok (Scan.fileIssues set quiet file content) := by
  have hset := nodup_ids_of_build hbuild
  refine bind_eq_ok_iff.mpr ⟨_, mapM_eq_ok_map fun (line, i) hline => ?_, rfl⟩
  have hi : i < (Text.lines content.toList).length :=
    (List.getElem?_eq_some_iff.mp (List.mem_zipIdx_iff_getElem?.mp hline)).1
  exact judgeLine_eq_lineIssues hset hi

/-- The id of the rule of the user's own is also that of the findings about nesting. -/
theorem judgeFile_eq_fileIssues_sharedId :
    ∃ set issues, RuleSet.build [elseRule] [(Nesting.ruleId, .critical)] = .ok set ∧
      Scan.judgeFile set false "app/a.ts" "else if (a) if (b) c();" = .ok issues ∧
      Nesting.issue "app/a.ts" 1 "else if (a) if (b) c();".toList 1 Nesting.denseMessage ∈
        issues := by
  have hbuild := build_elseRule [(Nesting.ruleId, .critical)]
  have hline : (Text.lines "else if (a) if (b) c();".toList)[0]? =
      some "else if (a) if (b) c();".toList := by decide
  have hdense : 1 < Nesting.openerCount "else if (a) if (b) c();".toList := by decide +kernel
  exact ⟨_, _, hbuild, judgeFile_eq_fileIssues hbuild false _ _,
    nesting_mem_fileIssues _ false hline (dense_mem_nesting _ _ hdense)⟩

end SlopLint
