import SlopLint.Proofs.FailingSteps
import SlopLint.Proofs.QuietScan
import SlopLint.Proofs.ReportTotals
import SlopLint.SourceTree.Discovery
import SlopLint.SourceTree.Reading

/-!
# Quiet runs

A quiet run acts in two places: it looks at the application's own files only, and it leaves out
what rules find in test files. Together this is a filter of the issues of the full run, which keeps
the findings about nesting of all of the application's own files.
-/

namespace SlopLint

open Text

/-- Whether an origin is the search for nested control structures. -/
def Origin.isNesting : Origin → Bool
  | .rule _ => false
  | .nesting => true

/-- Whether a quiet run has a finding of the full run as well: it lies in one of the application's
own files, and this is no test file or the finding is one about nesting. -/
def Detection.staysQuiet (entry : Origin × Issue) : Bool :=
  FileKind.startsInCore entry.2.file.toList &&
    (!FileKind.isTest entry.2.file || entry.1.isNesting)

/-! ### Selected files -/

lemma path_of_readSource {tree : SourceTree} {root : Path} {rootText path : String}
    {source : SourceFile} (h : tree.readSource root rootText path = .ok source) :
    source.path = path := by
  unfold SourceTree.readSource at h
  dsimp only at h
  split at h
  · cases h
  · obtain ⟨text, _, hsource⟩ := bind_eq_ok_iff.mp h
    cases hsource
    rfl

/-- Where all discovered files can be read, a quiet run reads the application's own ones. -/
lemma readSources_quiet {tree : SourceTree} {root : Path} {rootText : String}
    {paths : List String} {sources : List SourceFile}
    (h : tree.readSources root rootText (SourceTree.keepCore false paths) = .ok sources) :
    tree.readSources root rootText (SourceTree.keepCore true paths) =
      .ok (sources.filter fun file => FileKind.startsInCore file.path.toList) := by
  refine mapM_filter_eq_ok ?_ h
  intro path source hsource
  rw [path_of_readSource hsource]

/-! ### Findings that stay -/

/-- Outside of test files the exceptions of a quiet scan are those of any scan. -/
lemma accepted_quiet_iff {subject : Subject} {file : String} {site : Site}
    (hfile : FileKind.isTest file = false) :
    Accepted subject (.ofPath file) true site ↔ Accepted subject (.ofPath file) false site := by
  constructor
  · intro h
    exact { h with loud := fun hquiet => absurd hquiet Bool.false_ne_true }
  · intro h
    exact { h with loud := fun _ _ => hfile }

lemma ruleIssues_quiet {file : String} (hfile : FileKind.isTest file = false) (lines : List Line)
    (number : Int) (line : Line) (rule : Rule) :
    Scan.ruleIssues (.ofPath file) true file lines number line rule =
      Scan.ruleIssues (.ofPath file) false file lines number line rule := by
  unfold Scan.ruleIssues
  congr 1
  apply List.filter_congr
  intro found _
  rw [Bool.eq_iff_iff, counts_eq_true_iff, counts_eq_true_iff, accepted_quiet_iff hfile]

section Built

variable {custom : List CustomRule} {overrides : List (String × Severity)} {set : RuleSet}
  {origin : Origin}

/-- A quiet scan keeps the findings of an origin, except for those of rules in test files. -/
lemma findings_quiet (hbuild : RuleSet.build custom overrides = .ok set)
    (horigin : origin ∈ set.origins) (file : String) (lines : List Line) (number : Int)
    (line : Line) :
    origin.findings true file lines number line =
      if !FileKind.isTest file || origin.isNesting then
        origin.findings false file lines number line
      else [] := by
  cases origin with
  | nesting => simp [Origin.isNesting, Origin.findings]
  | rule rule =>
    cases htest : FileKind.isTest file with
    | true =>
      have hrule := rule_mem_origins.mp horigin
      exact ruleIssues_eq_nil_of_quiet hbuild htest hrule lines number line
    | false => exact ruleIssues_quiet htest lines number line rule

lemma filter_findingsAt (hbuild : RuleSet.build custom overrides = .ok set)
    (horigin : origin ∈ set.origins) (file content : String) (k : Nat) :
    ((Scan.findingsAt false file content origin k).map (Prod.mk origin)).filter
        Detection.staysQuiet =
      if FileKind.startsInCore file.toList then
        (Scan.findingsAt true file content origin k).map (Prod.mk origin)
      else [] := by
  have hquiet : Scan.findingsAt true file content origin k =
      if !FileKind.isTest file || origin.isNesting then
        Scan.findingsAt false file content origin k
      else [] := by
    unfold Scan.findingsAt
    cases (Text.lines content.toList)[k]? with
    | none => simp
    | some line => exact findings_quiet hbuild horigin file _ _ line
  -- file and origin are the same for all of these findings, so they stay or go together
  have hstays : (Scan.findingsAt false file content origin k).filter
        (Detection.staysQuiet ∘ Prod.mk origin) =
      (Scan.findingsAt false file content origin k).filter fun _ =>
        FileKind.startsInCore file.toList && (!FileKind.isTest file || origin.isNesting) := by
    apply List.filter_congr
    intro issue hissue
    rw [Function.comp_apply, Detection.staysQuiet, file_of_mem_findingsAt hissue]
  rw [List.filter_map, hquiet, hstays]
  cases FileKind.startsInCore file.toList <;>
    cases (!FileKind.isTest file || origin.isNesting) <;> simp

/-- The findings that stay are those of a quiet scan of the application's own files. -/
theorem filter_attributed_quiet (hbuild : RuleSet.build custom overrides = .ok set)
    (files : List SourceFile) :
    (Detection.attributed set.origins false files).filter Detection.staysQuiet =
      Detection.attributed set.origins true
        (files.filter fun file => FileKind.startsInCore file.path.toList) := by
  unfold Detection.attributed
  simp only [List.filter_flatMap, flatMap_filter]
  apply List.flatMap_congr
  intro file _
  have horigins : ∀ k, (set.origins.flatMap fun origin =>
      ((Scan.findingsAt false file.path file.content origin k).map (Prod.mk origin)).filter
        Detection.staysQuiet) =
      set.origins.flatMap fun origin =>
        if FileKind.startsInCore file.path.toList then
          (Scan.findingsAt true file.path file.content origin k).map (Prod.mk origin)
        else [] := by
    intro k
    apply List.flatMap_congr
    intro origin horigin
    exact filter_findingsAt hbuild horigin file.path file.content k
  simp only [horigins]
  cases FileKind.startsInCore file.path.toList <;> simp

end Built

/-- Where the full run of a tree succeeds the quiet run does, and its issues are those of the full
run that lie in the application's own files and either not in a test file or are about nesting. -/
theorem quiet_run_filters_full_run {tree : SourceTree} {root : Path} {rootText : String}
    {selection : SourceTree.Selection} {settings : Option Settings} {paths : List String}
    {sources : List SourceFile} {result : Detection}
    (hfound : (tree.discover root selection).map (SourceTree.keepCore false) = .ok paths)
    (hread : tree.readSources root rootText paths = .ok sources)
    (hrun : Detection.run settings false sources = .ok result) :
    ∃ set quietPaths quietSources quietResult, Detection.rulesOf settings = .ok set ∧
      (tree.discover root selection).map (SourceTree.keepCore true) = .ok quietPaths ∧
      tree.readSources root rootText quietPaths = .ok quietSources ∧
      Detection.run settings true quietSources = .ok quietResult ∧
      let found := Detection.attributed set.origins false sources
      result.issues = found.map Prod.snd ∧
      quietResult.issues = (found.filter Detection.staysQuiet).map Prod.snd := by
  obtain ⟨set, hset, rfl⟩ := run_eq_ok hrun
  have hbuild := build_of_rulesOf hset
  obtain ⟨selected, hselected, rfl⟩ := map_eq_ok_iff.mp hfound
  refine ⟨set, SourceTree.keepCore true selected, _, _, hset, ?_, readSources_quiet hread,
    run_of_rules true _ hset, ?_, ?_⟩
  · rw [hselected]
    rfl
  · exact (map_snd_attributed set false sources).symm
  · rw [filter_attributed_quiet hbuild, map_snd_attributed]
    rfl

/-- A test file and another file of the application, and a file that is not its own. -/
def mixedTree : SourceTree where
  files := [
    (["app", "a.test.ts"], Text.Utf8.encode "else if (a) if (b) c(); // TODO".toList),
    (["lib", "b.ts"], Text.Utf8.encode "let b: any;".toList),
    (["tools", "a.ts"], Text.Utf8.encode "let a: any;".toList)]
  folders := []

lemma discover_mixedTree :
    mixedTree.discover [] {} = .ok ["app/a.test.ts", "lib/b.ts", "tools/a.ts"] := by
  have hpaths : ((mixedTree.files.filterMap fun file => SourceTree.belowRoot? [] file.1).filter
      (SourceTree.Selection.selects {})).map Path.text =
      ["app/a.test.ts", "lib/b.ts", "tools/a.ts"] := by
    decide +kernel
  have hselected : mixedTree.selected [] {} = ["app/a.test.ts", "lib/b.ts", "tools/a.ts"] := by
    unfold SourceTree.selected
    dsimp only
    rw [hpaths]
    exact List.mergeSort_of_pairwise (by decide +kernel)
  exact congrArg Except.ok hselected

/-- In the test file `elseRule` matches as well, which has the id of the findings about nesting. -/
theorem quiet_run_filters_full_run_mixedTree :
    ∃ paths sources result quietPaths quietSources quietResult,
      (mixedTree.discover [] {}).map (SourceTree.keepCore false) = .ok paths ∧
      mixedTree.readSources [] "/srv" paths = .ok sources ∧
      Detection.run (some { customRules := [elseRule] }) false sources = .ok result ∧
      (mixedTree.discover [] {}).map (SourceTree.keepCore true) = .ok quietPaths ∧
      mixedTree.readSources [] "/srv" quietPaths = .ok quietSources ∧
      Detection.run (some { customRules := [elseRule] }) true quietSources = .ok quietResult ∧
      quietResult.issues.Sublist result.issues := by
  have hfound : (mixedTree.discover [] {}).map (SourceTree.keepCore false) =
      .ok ["app/a.test.ts", "lib/b.ts", "tools/a.ts"] := by
    rw [discover_mixedTree]
    rfl
  have hread : mixedTree.readSources [] "/srv" ["app/a.test.ts", "lib/b.ts", "tools/a.ts"] =
      .ok [⟨"app/a.test.ts", "else if (a) if (b) c(); // TODO"⟩, ⟨"lib/b.ts", "let b: any;"⟩,
        ⟨"tools/a.ts", "let a: any;"⟩] := by
    decide +kernel
  have hrun := @run_of_rules (some { customRules := [elseRule] }) _ false
    [⟨"app/a.test.ts", "else if (a) if (b) c(); // TODO"⟩, ⟨"lib/b.ts", "let b: any;"⟩,
      ⟨"tools/a.ts", "let a: any;"⟩] (build_elseRule [])
  obtain ⟨set, quietPaths, quietSources, quietResult, _, hquietFound, hquietRead, hquietRun,
    hissues, hquietIssues⟩ := quiet_run_filters_full_run hfound hread hrun
  refine ⟨_, _, _, quietPaths, quietSources, quietResult, hfound, hread, hrun, hquietFound,
    hquietRead, hquietRun, ?_⟩
  rw [hissues, hquietIssues]
  exact List.filter_sublist.map Prod.snd

end SlopLint
