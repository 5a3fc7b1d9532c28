import SlopLint.Proofs.FindingOrigins
import SlopLint.Proofs.Grouping
import SlopLint.Proofs.PrintedNumbers
import SlopLint.Proofs.RenderedTexts
import SlopLint.Proofs.RuleSets
import SlopLint.Summary

/-!
# Printing the summary of a run

The lines that name rules are the only part of a summary that markup can bring to a fault. Ids that
close no tag cannot do so, and the ids of findings are those of the rules they were found for.
-/

namespace SlopLint

namespace Console

section Items

variable [Library] {width : Nat}

/-- An item brings a console of some width to no fault. -/
def Item.Prints (width : Nat) (item : Item) : Prop :=
  ∃ lines, item.lines width = .ok lines

/-- Printing comes to its end exactly when no item has a fault. -/
theorem print_fault_eq_none_iff (width : Nat) (items : List Item) :
    (print width items).fault = none ↔ ∀ item ∈ items, item.Prints width := by
  induction items with
  | nil => simp [print]
  | cons item items ih =>
    rw [List.forall_mem_cons, ← ih, Item.Prints]
    cases h : item.lines width with
    | error fault => simp [print, h]
    | ok lines => simp [print, h]

lemma Item.Prints.plain (text : String) : (Item.plain text).Prints width :=
  ⟨_, rfl⟩

lemma Item.Prints.table (grid : Table) : (Item.table grid).Prints width :=
  ⟨_, rfl⟩

lemma prints_of_shown {text : String} {shown : List Char}
    (h : Markup.renderOn width text.toList = .ok shown) : (Item.marked text).Prints width :=
  ⟨wrap .fold width shown, by rw [Item.lines, h]; rfl⟩

lemma prints_of_harmless {text : String} (h : Markup.Harmless text.toList) :
    (Item.marked text).Prints width :=
  prints_of_shown (Markup.renderOn_of_harmless h width)

lemma prints_of_no_bracket {text : String} (h : '[' ∉ text.toList) :
    (Item.marked text).Prints width :=
  prints_of_harmless (Markup.harmless_of_no_bracket h)

lemma not_prints_of_isNone {text : String}
    (h : (Markup.renderOn width text.toList).toOption.isNone) :
    ¬ (Item.marked text).Prints width := by
  rintro ⟨lines, hlines⟩
  rw [Item.lines] at hlines
  cases hshown : Markup.renderOn width text.toList with
  | error fault =>
    rw [hshown] at hlines
    cases hlines
  | ok shown =>
    rw [hshown] at h
    cases h

end Items

end Console

namespace Summary

open Console

lemma not_mem_toString {c : Char} (hc : c.isDigit = false) (n : Nat) : c ∉ (toString n).toList := by
  intro h
  rw [isDigit_of_mem_repr h] at hc
  cases hc

lemma bracket_not_mem_toString (n : Nat) : '[' ∉ (toString n).toList :=
  not_mem_toString (by decide) n

lemma not_mem_append {c : Char} {s t : String} (hs : c ∉ s.toList) (ht : c ∉ t.toList) :
    c ∉ (s ++ t).toList := by
  simp [hs, ht]

/-! ### Lines that name rules -/

/-- The line over a group of issues names their rule. -/
def nameItem (ruleId : String) : Item :=
  .marked s!"\n  Pattern: [bold]{ruleId}[/]"

/-- The line of a rule in the ranking. -/
def rankItem (entry : String × Nat) : Item :=
  .marked s!"  {entry.1}: {entry.2}"

lemma nameText_toList (ruleId : String) :
    (s!"\n  Pattern: [bold]{ruleId}[/]").toList =
      "\n  Pattern: ".toList ++ ("[bold]".toList ++ (ruleId.toList ++ "[/]".toList)) := by
  have hopening : (toString "\n  Pattern: [bold]").toList =
      "\n  Pattern: ".toList ++ "[bold]".toList := by decide
  rw [String.toList_append, String.toList_append, hopening, List.append_assoc, List.append_assoc]
  rfl

lemma rankText_toList (entry : String × Nat) :
    (s!"  {entry.1}: {entry.2}").toList =
      "  ".toList ++ (entry.1.toList ++ (": " ++ toString entry.2).toList) := by
  simp only [String.toList_append, List.append_assoc]
  rfl

lemma exists_of_mem_ruleGroups {issues : List Issue} {group : String × List Issue}
    (h : group ∈ ruleGroups issues) : ∃ issue ∈ issues, issue.ruleId = group.1 := by
  have hkey := List.mem_map_of_mem (f := Prod.fst) h
  rw [ruleGroups, groupBy_keys, List.mem_eraseDups] at hkey
  obtain ⟨issue, hissue, heq⟩ := List.mem_map.mp hkey
  exact ⟨issue, List.mem_of_mem_take hissue, heq⟩

lemma exists_of_mem_ranking {value : Issue → String} {issues : List Issue} {entry : String × Nat}
    (h : entry ∈ ranking value issues) : ∃ issue ∈ issues, value issue = entry.1 := by
  rw [ranking, List.mem_mergeSort] at h
  obtain ⟨group, hgroup, rfl⟩ := List.mem_map.mp h
  have hkey := List.mem_map_of_mem (f := Prod.fst) hgroup
  rw [groupBy_keys, List.mem_eraseDups] at hkey
  exact List.mem_map.mp hkey

lemma harmless_of_mem_filesIssues {custom : List CustomRule} {overrides : List (String × Severity)}
    {set : RuleSet} (hbuild : RuleSet.build custom overrides = .ok set)
    (hids : ∀ rule ∈ custom, Markup.Harmless rule.id.toList) {quiet : Bool}
    {files : List SourceFile} {issue : Issue} (h : issue ∈ Detection.filesIssues set quiet files) :
    Markup.Harmless issue.ruleId.toList := by
  have hbuiltin : ∀ rule ∈ Rule.builtin, Markup.Harmless rule.id.toList := by decide +kernel
  obtain ⟨origin, horigin, _, _, _, _, hfound⟩ := exists_origin_of_mem_filesIssues h
  rw [ruleId_of_mem_findings hfound]
  cases origin with
  | nesting => decide
  | rule rule =>
    obtain ⟨plain, hplain, rfl⟩ := (mem_rules_of_build hbuild).mp (rule_mem_origins.mp horigin)
    rw [Origin.ruleId, overrideRule_id]
    obtain hplain | ⟨own, hown, rfl⟩ := hplain
    · exact hbuiltin plain hplain
    · exact hids own hown

/-! ### Items without faults -/

variable [Library] {width : Nat}

lemma count_prints {before after : String} (n : Nat) (hbefore : '[' ∉ before.toList)
    (hafter : '[' ∉ after.toList) :
    (Item.marked (before ++ toString n ++ after)).Prints width := by
  apply prints_of_no_bracket
  exact not_mem_append (not_mem_append hbefore (bracket_not_mem_toString n)) hafter

lemma groupItems_print_iff (rules : Option RuleSet) (ruleId : String) (issues : List Issue) :
    (∀ item ∈ groupItems rules ruleId issues, item.Prints width) ↔
      (nameItem ruleId).Prints width := by
  have hcount : (Item.marked s!"   Sample occurrences: {issues.length}").Prints width :=
    prints_of_no_bracket (not_mem_append (by decide) (bracket_not_mem_toString _))
  have hmore : (Item.marked
      s!"   ... and {issues.length - instanceCount} more instances").Prints width :=
    count_prints _ (by decide) (by decide)
  unfold groupItems
  extract_lets rule
  constructor
  · intro h
    exact h _ (by simp [nameItem])
  · intro h item hitem
    simp only [List.mem_append, List.mem_cons, List.mem_map] at hitem
    obtain ((rfl | ⟨_, _, rfl⟩) | rfl | ⟨_, _, rfl⟩) | hitem := hitem
    · exact h
    · exact Item.Prints.plain _
    · exact hcount
    · exact Item.Prints.plain _
    · split at hitem
      · obtain rfl := List.mem_singleton.mp hitem
        exact hmore
      · cases hitem

lemma severityHead_prints (severity : Severity) :
    (Item.marked s!"\n{severity.name.toUpper} SEVERITY ISSUES").Prints width := by
  apply prints_of_no_bracket
  cases severity <;> decide +kernel

lemma severityItems_print_iff (rules : Option RuleSet) (severity : Severity) (issues : List Issue) :
    (∀ item ∈ severityItems rules severity issues, item.Prints width) ↔
      ∀ group ∈ ruleGroups issues, (nameItem group.1).Prints width := by
  have hmore : (Item.marked
      s!"\n   ... and {issues.length - blockSize} more issues of this severity").Prints width :=
    count_prints _ (by decide) (by decide)
  refine Iff.trans ?_ (forall₂_congr fun group _ => groupItems_print_iff rules group.1 group.2)
  unfold severityItems
  split
  next hnone =>
    have hgroups : ruleGroups issues = [] := by rw [List.isEmpty_iff.mp hnone]; rfl
    simp [hgroups]
  next =>
    constructor
    · intro h group hgroup item hitem
      refine h item (List.mem_append_left _ (List.mem_cons_of_mem _ ?_))
      exact List.mem_flatMap.mpr ⟨group, hgroup, hitem⟩
    · intro h item hitem
      simp only [List.mem_append, List.mem_cons, List.mem_flatMap] at hitem
      obtain (rfl | ⟨group, hgroup, hitem⟩) | hitem := hitem
      · exact severityHead_prints severity
      · exact h group hgroup item hitem
      · split at hitem
        · obtain rfl := List.mem_singleton.mp hitem
          exact hmore
        · cases hitem

lemma ruleItems_print_iff (issues : List Issue) :
    (∀ item ∈ ruleItems issues, item.Prints width) ↔
      ∀ entry ∈ (ranking Issue.ruleId issues).take ruleCount, (rankItem entry).Prints width := by
  have hhead : (Item.marked "\nIssues by type:").Prints width := prints_of_no_bracket (by decide)
  unfold ruleItems
  rw [List.forall_mem_cons, List.forall_mem_map]
  exact and_iff_right hhead

lemma coreItems_print (issues : List Issue) : ∀ item ∈ coreItems issues, item.Prints width := by
  have hhead : (Item.marked "\nTop CORE APPLICATION files with AI slop issues:").Prints width :=
    prints_of_no_bracket (by decide)
  have hnone : (Item.marked "  No core application files found with issues").Prints width :=
    prints_of_no_bracket (by decide)
  unfold coreItems
  extract_lets files
  rw [List.forall_mem_cons]
  refine ⟨hhead, ?_⟩
  split
  · exact List.forall_mem_singleton.mpr hnone
  · exact List.forall_mem_map.mpr fun _ _ => Item.Prints.plain _

lemma otherItems_print (quiet : Bool) (issues : List Issue) :
    ∀ item ∈ otherItems quiet issues, item.Prints width := by
  have hhead : (Item.marked
      "\nTop OTHER files with AI slop issues (utilities, scripts, etc.):").Prints width :=
    prints_of_no_bracket (by decide)
  unfold otherItems
  extract_lets files
  split
  · exact List.forall_mem_nil _
  · exact List.forall_mem_cons.mpr ⟨hhead, List.forall_mem_map.mpr fun _ _ => Item.Prints.plain _⟩

lemma scoreItems_print (score : Score) : ∀ item ∈ scoreItems score, item.Prints width := by
  have hverdict : (Item.marked (verdictLine score.verdict)).Prints width :=
    prints_of_no_bracket (by cases score.verdict <;> decide)
  unfold scoreItems
  rw [List.forall_mem_cons, List.forall_mem_singleton]
  exact ⟨Item.Prints.table _, hverdict⟩

/-! ### The whole summary -/

/-- A summary is printed whole exactly when the ids of the rules it names bring none of its lines
to a fault: those over the groups of the four severities, and those of the ranking. -/
theorem items_print_iff (rules : Option RuleSet) (quiet : Bool) (detection : Detection) :
    (∀ item ∈ items rules quiet detection, item.Prints width) ↔
      (∀ severity, ∀ group ∈ ruleGroups (detection.bySeverity severity),
        (nameItem group.1).Prints width) ∧
      ∀ entry ∈ (ranking Issue.ruleId detection.issues).take ruleCount,
        (rankItem entry).Prints width := by
  have hhead : (Item.marked "AI Slop Detection Report").Prints width :=
    prints_of_no_bracket (by decide)
  have hclean : (Item.marked "No AI slop issues detected!").Prints width :=
    prints_of_no_bracket (by decide)
  have hscore : ∀ item ∈ scoreItems detection.score, item.Prints width :=
    scoreItems_print detection.score
  unfold items
  extract_lets body
  have hbody : (∀ item ∈ Item.marked "AI Slop Detection Report" :: body ++
      scoreItems detection.score, item.Prints width) ↔ ∀ item ∈ body, item.Prints width := by
    rw [List.forall_mem_append, List.forall_mem_cons]
    exact ⟨fun h => h.1.2, fun h => ⟨⟨hhead, h⟩, hscore⟩⟩
  rw [hbody]
  by_cases hnone : detection.issues.isEmpty = true
  · rw [show body = [.marked "No AI slop issues detected!"] from if_pos hnone,
      List.forall_mem_singleton, iff_true_left hclean]
    have hissues := List.isEmpty_iff.mp hnone
    constructor
    · intro severity group hgroup
      obtain ⟨issue, hissue, -⟩ := exists_of_mem_ruleGroups hgroup
      have hmem := List.mem_of_mem_filter hissue
      simp [hissues] at hmem
    · intro entry hentry
      obtain ⟨issue, hissue, -⟩ := exists_of_mem_ranking (List.mem_of_mem_take hentry)
      simp [hissues] at hissue
  · rw [show body = issueItems rules quiet detection from if_neg hnone, issueItems]
    rw [List.forall_mem_append, List.forall_mem_append, List.forall_mem_append,
      List.forall_mem_cons, List.forall_mem_flatMap, ruleItems_print_iff]
    simp only [severityItems_print_iff, Severity.mem_all, forall_true_left]
    constructor
    · rintro ⟨⟨⟨⟨-, hgroups⟩, hranking⟩, -⟩, -⟩
      exact ⟨hgroups, hranking⟩
    · rintro ⟨hgroups, hranking⟩
      exact ⟨⟨⟨⟨Item.Prints.table _, hgroups⟩, hranking⟩, coreItems_print _⟩, otherItems_print _ _⟩

lemma nameItem_prints {ruleId : String} (h : Markup.Harmless ruleId.toList) :
    (nameItem ruleId).Prints width := by
  unfold nameItem
  apply prints_of_shown
  rw [nameText_toList]
  exact Markup.renderOn_between (by decide) (by decide) h width

lemma rankItem_prints {entry : String × Nat} (h : Markup.Harmless entry.1.toList) :
    (rankItem entry).Prints width := by
  have hcount : Markup.Harmless (": " ++ toString entry.2).toList :=
    Markup.harmless_of_no_bracket (not_mem_append (by decide) (bracket_not_mem_toString _))
  have hcloses : (": " ++ toString entry.2).toList.find? Markup.isBracket ≠ some ']' := fun hfind =>
    not_mem_append (by decide) (not_mem_toString (by decide) entry.2)
      (List.mem_of_find?_eq_some hfind)
  unfold rankItem
  apply prints_of_harmless
  rw [rankText_toList]
  exact Markup.Harmless.behind (by decide) (h.append hcount hcloses)

lemma items_print_of_harmless {detection : Detection}
    (h : ∀ issue ∈ detection.issues, Markup.Harmless issue.ruleId.toList) (rules : Option RuleSet)
    (quiet : Bool) : ∀ item ∈ items rules quiet detection, item.Prints width := by
  rw [items_print_iff]
  constructor
  · intro severity group hgroup
    obtain ⟨issue, hissue, heq⟩ := exists_of_mem_ruleGroups hgroup
    exact nameItem_prints (heq ▸ h issue (List.mem_of_mem_filter hissue))
  · intro entry hentry
    obtain ⟨issue, hissue, heq⟩ := exists_of_mem_ranking (List.mem_of_mem_take hentry)
    exact rankItem_prints (heq ▸ h issue hissue)

/-- A scan for accepted rules with harmless ids has a summary that is printed whole. -/
theorem print_scan_of_harmless {custom : List CustomRule} {overrides : List (String × Severity)}
    {set : RuleSet} (hbuild : RuleSet.build custom overrides = .ok set)
    (hids : ∀ rule ∈ custom, Markup.Harmless rule.id.toList) (quiet : Bool)
    (files : List SourceFile) (width : Nat) :
    (print width (items (some set) quiet (Detection.scan set quiet files))).fault = none := by
  rw [print_fault_eq_none_iff]
  apply items_print_of_harmless
  intro issue hissue
  exact harmless_of_mem_filesIssues hbuild hids hissue

end Summary

end SlopLint
