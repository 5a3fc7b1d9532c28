import Mathlib.Data.Prod.Lex
import SlopLint.Proofs.OccurrenceOrder
import SlopLint.Proofs.ReplayedIssues
import SlopLint.Proofs.ReportTotals
import SlopLint.Proofs.RuleSets

/-!
# The order of findings

The findings of a file come line by line, those of a line in the order of the rules with the ones
about nesting last, and those of a rule from left to right. So no finding comes twice, and the
locations of an entry are told in the order of the file, each of them once.
-/

namespace SlopLint

open Text

/-- The position of an origin in the order in which a line is searched. -/
def RuleSet.position (set : RuleSet) : Origin → Nat
  | .rule rule => set.ids.idxOf rule.id
  | .nesting => set.rules.length

/-- Where a finding stands among those of its file: by its line, by the position of its origin, and
by its column. -/
def RuleSet.place (set : RuleSet) (found : Origin × Issue) : Int ×ₗ Nat ×ₗ Int :=
  toLex (found.2.line, toLex (set.position found.1, found.2.column))

/-- Where an issue is on its file. -/
def Issue.place (issue : Issue) : Int ×ₗ Int :=
  toLex (issue.line, issue.column)

/-! ### Positions -/

lemma length_ids (set : RuleSet) : set.ids.length = set.rules.length :=
  List.length_map _

/-- Where ids are not shared, the origins of a set stand at different positions. -/
lemma pairwise_origins {set : RuleSet} (h : set.ids.Nodup) :
    set.origins.Pairwise fun a b => set.position a < set.position b := by
  unfold RuleSet.origins
  rw [List.pairwise_append, List.pairwise_map]
  refine ⟨?_, List.pairwise_singleton _ _, ?_⟩
  · rw [List.pairwise_iff_getElem]
    intro i j hi hj hij
    have hposition (k : Nat) (hk : k < set.rules.length) :
        set.position (.rule set.rules[k]) = k := by
      have hk' : k < set.ids.length := by
        rw [length_ids]
        exact hk
      have hid : set.rules[k].id = set.ids[k] := by
        simp [RuleSet.ids]
      rw [RuleSet.position, hid]
      exact h.idxOf_getElem k hk'
    rw [hposition i hi, hposition j hj]
    exact hij
  · intro origin horigin other hother
    obtain ⟨rule, hrule, rfl⟩ := List.mem_map.mp horigin
    obtain rfl := List.mem_singleton.mp hother
    have hid : rule.id ∈ set.ids := List.mem_map_of_mem hrule
    exact Nat.lt_of_lt_of_eq (List.idxOf_lt_length_of_mem hid) (length_ids set)

/-! ### Findings on a line -/

lemma pairwise_nesting (file : String) (number : Int) (line : Line) :
    (Nesting.issues file number line).Pairwise fun a b => a.column < b.column := by
  unfold Nesting.issues
  split
  · split
    · next hdeep =>
      -- the second column is behind the indentation, the first one is that of the line
      have hindent : Nesting.deepIndent ≤ Nesting.indent line := by
        simp only [Nesting.isDeep, Bool.and_eq_true, decide_eq_true_eq] at hdeep
        exact hdeep.1.1.1.2
      unfold Nesting.deepIndent at hindent
      refine List.pairwise_pair.mpr ?_
      change (1 : Int) < Nesting.indent line + 1
      omega
    · exact List.pairwise_singleton _ _
  · split
    · exact List.pairwise_singleton _ _
    · exact .nil

lemma pairwise_ruleIssues (kinds : FileKinds) (quiet : Bool) (file : String) (lines : List Line)
    (number : Int) (line : Line) (rule : Rule) :
    (Scan.ruleIssues kinds quiet file lines number line rule).Pairwise
      fun a b => a.column < b.column := by
  have hmatches : (Scan.ruleMatches file number line rule).Pairwise
      fun a b => a.column < b.column := by
    unfold Scan.ruleMatches
    rw [List.pairwise_map]
    refine (Pattern.pairwise_start_occurrences rule.pattern line).imp ?_
    intro a b hab
    dsimp only
    omega
  unfold Scan.ruleIssues
  rw [List.pairwise_map]
  exact hmatches.filter _

lemma pairwise_findings (quiet : Bool) (file : String) (lines : List Line) (number : Int)
    (line : Line) (origin : Origin) :
    (origin.findings quiet file lines number line).Pairwise fun a b => a.column < b.column := by
  cases origin with
  | rule rule => exact pairwise_ruleIssues _ quiet file lines number line rule
  | nesting => exact pairwise_nesting file number line

/-! ### Findings of a file -/

lemma line_of_mem_findingsAt {file content : String} {origin : Origin} {k : Nat} {issue : Issue}
    (h : issue ∈ Scan.findingsAt quiet file content origin k) :
    issue.line = ((k + 1 : Nat) : Int) := by
  obtain ⟨line, _, hfound⟩ := mem_findingsAt.mp h
  exact line_of_mem_findings hfound

lemma pairwise_findingsAt (set : RuleSet) (quiet : Bool) (file content : String) (origin : Origin)
    (k : Nat) : ((Scan.findingsAt quiet file content origin k).map (Prod.mk origin)).Pairwise
      fun a b => set.place a < set.place b := by
  have hcolumns : (Scan.findingsAt quiet file content origin k).Pairwise
      fun a b => a.column < b.column := by
    unfold Scan.findingsAt
    split
    · exact .nil
    · exact pairwise_findings quiet file _ _ _ origin
  rw [List.pairwise_map]
  refine hcolumns.imp_of_mem ?_
  intro a b ha hb hab
  unfold RuleSet.place
  rw [line_of_mem_findingsAt ha, line_of_mem_findingsAt hb]
  simp [Prod.Lex.toLex_lt_toLex, hab]

/-- The findings of a file are strictly increasing in line, position and column. -/
theorem pairwise_place_attributed {set : RuleSet} (h : set.ids.Nodup) (quiet : Bool)
    (file : SourceFile) :
    (Detection.attributed set.origins quiet [file]).Pairwise
      fun a b => set.place a < set.place b := by
  unfold Detection.attributed
  rw [List.flatMap_singleton, List.pairwise_flatMap]
  constructor
  · intro k _
    rw [List.pairwise_flatMap]
    refine ⟨fun origin _ => pairwise_findingsAt set quiet _ _ origin k, ?_⟩
    refine (pairwise_origins h).imp ?_
    intro origin other hposition a ha b hb
    obtain ⟨issue, hissue, rfl⟩ := List.mem_map.mp ha
    obtain ⟨issue', hissue', rfl⟩ := List.mem_map.mp hb
    unfold RuleSet.place
    rw [line_of_mem_findingsAt hissue, line_of_mem_findingsAt hissue']
    simp [Prod.Lex.toLex_lt_toLex, hposition]
  · refine List.pairwise_lt_range.imp ?_
    intro k l hkl a ha b hb
    obtain ⟨origin, _, ha⟩ := List.mem_flatMap.mp ha
    obtain ⟨other, _, hb⟩ := List.mem_flatMap.mp hb
    obtain ⟨issue, hissue, rfl⟩ := List.mem_map.mp ha
    obtain ⟨issue', hissue', rfl⟩ := List.mem_map.mp hb
    unfold RuleSet.place
    rw [line_of_mem_findingsAt hissue, line_of_mem_findingsAt hissue']
    exact Prod.Lex.toLex_lt_toLex.mpr (.inl (by omega))

/-- Findings that look the same, wherever they are, come from origins at the same position: a rule
with the id of the findings about nesting has other messages. -/
lemma position_eq_of_mem_findings (set : RuleSet) {quiet quiet' : Bool} {file file' : String}
    {lines lines' : List Line} {number number' : Int} {line line' : Line} {origin other : Origin}
    {issue issue' : Issue} (h : issue ∈ origin.findings quiet file lines number line)
    (h' : issue' ∈ other.findings quiet' file' lines' number' line')
    (hid : issue.ruleId = issue'.ruleId) (hmessage : issue.message = issue'.message) :
    set.position origin = set.position other := by
  have hids : origin.ruleId = other.ruleId :=
    (ruleId_of_mem_findings h).symm.trans (hid.trans (ruleId_of_mem_findings h'))
  cases origin with
  | rule rule =>
    cases other with
    | rule rule' => exact congrArg set.ids.idxOf hids
    | nesting => exact absurd hmessage (message_ne_of_mem_nesting h h')
  | nesting =>
    cases other with
    | rule rule' => exact absurd hmessage.symm (message_ne_of_mem_nesting h' h)
    | nesting => rfl

lemma attributed_eq_flatMap (origins : List Origin) (quiet : Bool) (files : List SourceFile) :
    Detection.attributed origins quiet files =
      files.flatMap fun file => Detection.attributed origins quiet [file] := by
  simp [Detection.attributed]

/-- Among files of different paths, the findings of one entry are strictly increasing in line and
column. -/
theorem pairwise_key_attributed {set : RuleSet} (h : set.ids.Nodup) (quiet : Bool)
    {files : List SourceFile} (hpaths : (files.map SourceFile.path).Nodup) :
    (Detection.attributed set.origins quiet files).Pairwise
      fun a b => a.2.key = b.2.key → a.2.place < b.2.place := by
  rw [attributed_eq_flatMap, List.pairwise_flatMap]
  constructor
  · intro file _
    refine (pairwise_place_attributed h quiet file).imp_of_mem ?_
    rintro ⟨origin, issue⟩ ⟨other, issue'⟩ ha hb hplace hkey
    obtain ⟨_, _, _, k, hissue⟩ := mem_attributed.mp ha
    obtain ⟨_, _, _, l, hissue'⟩ := mem_attributed.mp hb
    obtain ⟨_, _, hfound⟩ := mem_findingsAt.mp hissue
    obtain ⟨_, _, hfound'⟩ := mem_findingsAt.mp hissue'
    have hposition := position_eq_of_mem_findings set hfound hfound'
      (congrArg IssueKey.ruleId hkey) (congrArg IssueKey.message hkey)
    simp only [RuleSet.place, hposition, Prod.Lex.toLex_lt_toLex, lt_irrefl, false_or,
      true_and] at hplace
    exact Prod.Lex.toLex_lt_toLex.mpr hplace
  · refine (List.pairwise_map.mp hpaths).imp ?_
    rintro file file' hpath ⟨origin, issue⟩ ha ⟨other, issue'⟩ hb hkey
    obtain ⟨_, _, hfile, _, hissue⟩ := mem_attributed.mp ha
    obtain ⟨_, _, hfile', _, hissue'⟩ := mem_attributed.mp hb
    obtain rfl := List.mem_singleton.mp hfile
    obtain rfl := List.mem_singleton.mp hfile'
    have hsame : issue.file = issue'.file := congrArg IssueKey.file hkey
    rw [file_of_mem_findingsAt hissue, file_of_mem_findingsAt hissue'] at hsame
    exact absurd hsame hpath

lemma map_snd_attributed_one (set : RuleSet) (quiet : Bool) (file content : String) :
    (Detection.attributed set.origins quiet [⟨file, content⟩]).map Prod.snd =
      Scan.fileIssues set quiet file content :=
  (map_snd_attributed set quiet _).trans (List.flatMap_singleton _ _)

/-- No finding of a file comes twice. -/
lemma nodup_fileIssues {custom : List CustomRule} {overrides : List (String × Severity)}
    {set : RuleSet} (hbuild : RuleSet.build custom overrides = .ok set) (quiet : Bool)
    (file content : String) : (Scan.fileIssues set quiet file content).Nodup := by
  have hpaths : ([⟨file, content⟩].map SourceFile.path).Nodup := List.nodup_singleton _
  have hkeys := pairwise_key_attributed (nodup_ids_of_build hbuild) quiet hpaths
  rw [← map_snd_attributed_one]
  refine List.pairwise_map.mpr (hkeys.imp ?_)
  intro a b hplace heq
  exact lt_irrefl _ (heq ▸ hplace (congrArg Issue.key heq))

/-! ### Locations -/

/-- A location names one place. -/
lemma place_eq_of_location {a b : Issue} (h : a.location = b.location) : a.place = b.place := by
  have hread := congrArg readLocation? h
  rw [readLocation?_location, readLocation?_location, Option.some.injEq, Prod.mk.injEq] at hread
  unfold Issue.place
  rw [hread.1, hread.2]

/-- The findings of a scan are strictly increasing in line, position of the rule and column, with
those about nesting behind all rules, and none comes twice. Where the paths of files differ, every
entry of a run has the locations of its issues, which are strictly increasing in line and column,
so that no location comes twice. -/
theorem findings_in_order :
    (∀ custom overrides set, RuleSet.build custom overrides = .ok set → ∀ quiet file content,
      let found := Detection.attributed set.origins quiet [⟨file, content⟩]
      found.map Prod.snd = Scan.fileIssues set quiet file content ∧
      found.Pairwise (fun a b => set.place a < set.place b) ∧
      (Scan.fileIssues set quiet file content).Nodup) ∧
    ∀ settings quiet files result, Detection.run settings quiet files = .ok result →
      (files.map SourceFile.path).Nodup → ∀ entry ∈ result.consolidated,
        let members := result.issues.filter (·.key == entry.key)
        entry.locations = members.map Issue.location ∧
        members.Pairwise (fun a b => a.place < b.place) ∧
        entry.locations.Nodup := by
  constructor
  · intro custom overrides set hbuild quiet file content found
    exact ⟨map_snd_attributed_one set quiet file content,
      pairwise_place_attributed (nodup_ids_of_build hbuild) quiet _,
      nodup_fileIssues hbuild quiet file content⟩
  · intro settings quiet files result hrun hpaths entry hentry members
    obtain ⟨set, hset, rfl⟩ := run_eq_ok hrun
    have hids := nodup_ids_of_build (build_of_rulesOf hset)
    have hlocations := locations_of_mem_consolidate hentry
    have hplaces : members.Pairwise fun a b => a.place < b.place := by
      have hissues : (Detection.filesIssues set quiet files).Pairwise
          fun a b => a.key = b.key → a.place < b.place := by
        rw [← map_snd_attributed]
        exact List.pairwise_map.mpr (pairwise_key_attributed hids quiet hpaths)
      refine List.pairwise_filter.mpr (hissues.imp ?_)
      intro a b hplace ha hb
      exact hplace ((beq_iff_eq.mp ha).trans (beq_iff_eq.mp hb).symm)
    refine ⟨hlocations, hplaces, ?_⟩
    rw [hlocations]
    refine List.pairwise_map.mpr (hplaces.imp ?_)
    intro a b hplace heq
    exact ne_of_lt hplace (place_eq_of_location heq)

/-- In the first file the rule of the user's own has the id of the findings about nesting. -/
theorem findings_in_order_sharedId :
    ∃ set result, RuleSet.build [elseRule] [] = .ok set ∧
      (Scan.fileIssues set false "a.ts" "else if (a) if (b) c(); else d();").Nodup ∧
      Detection.run (some { customRules := [elseRule] }) false
        [⟨"a.ts", "else if (a) if (b) c(); else d();"⟩, ⟨"b.ts", "else e();"⟩] = .ok result ∧
      ∀ entry ∈ result.consolidated, entry.locations.Nodup := by
  obtain ⟨hscan, hentries⟩ := findings_in_order
  have hrun := @run_of_rules (some { customRules := [elseRule] }) _ false
    [⟨"a.ts", "else if (a) if (b) c(); else d();"⟩, ⟨"b.ts", "else e();"⟩] (build_elseRule [])
  refine ⟨_, _, build_elseRule [], (hscan _ _ _ (build_elseRule []) false _ _).2.2, hrun, ?_⟩
  intro entry hentry
  exact (hentries _ _ _ _ hrun (by decide) entry hentry).2.2

end SlopLint
