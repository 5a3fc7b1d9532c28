import SlopLint.Proofs.PrintedLines
import SlopLint.Proofs.SummaryPrinting

/-!
# Severity blocks

The block of a severity shows some of its issues and tells how many it leaves out, of every group
and of the severity. Read back from its lines these add up to all issues of the severity.
-/

namespace SlopLint.Summary

open Console Markup

/-! ### Reading lines -/

/-- What a line of a block is for. -/
inductive LineKind where
  | name (text : List Char)
  | occurrence (text : List Char)
  | moreOccurrences (count : Nat)
  | moreIssues (count : Nat)
  | other
deriving DecidableEq

def kindOf (line : List Char) : LineKind :=
  ((behind? "\n  Pattern: " line).map LineKind.name <|>
    (behind? "   -> " line).map LineKind.occurrence <|>
    (told? "   ... and " " more instances" line).map LineKind.moreOccurrences <|>
    (told? "\n   ... and " " more issues of this severity" line).map LineKind.moreIssues).getD
      .other

/-- The issues that a line stands for. -/
def LineKind.issueCount : LineKind → Nat
  | occurrence _ => 1
  | moreOccurrences count => count
  | moreIssues count => count
  | name _ => 0
  | other => 0

/-- The names in a block, each with the occurrences below it, behind the occurrences that no name
stands above. -/
def readGroups : List LineKind → List (List Char) × List (List Char × List (List Char))
  | [] => ([], [])
  | kind :: rest =>
    let (texts, groups) := readGroups rest
    match kind with
    | .name name => ([], (name, texts) :: groups)
    | .occurrence text => (text :: texts, groups)
    | _ => (texts, groups)

lemma kindOf_name (text : List Char) : kindOf ("\n  Pattern: ".toList ++ text) = .name text := by
  rw [kindOf, behind?_append]
  rfl

lemma kindOf_occurrence (text : List Char) :
    kindOf ("   -> ".toList ++ text) = .occurrence text := by
  rw [kindOf, behind?_of_apart (by decide), behind?_append]
  rfl

lemma kindOf_moreOccurrences (count : Nat) :
    kindOf ("   ... and ".toList ++ (count.repr.toList ++ " more instances".toList)) =
      .moreOccurrences count := by
  rw [kindOf, behind?_of_apart (by decide), behind?_of_apart (by decide), told?_repr (by decide)]
  rfl

lemma kindOf_moreIssues (count : Nat) :
    kindOf ("\n   ... and ".toList ++ (count.repr.toList ++
      " more issues of this severity".toList)) = .moreIssues count := by
  rw [kindOf, behind?_of_apart (by decide), behind?_of_apart (by decide),
    told?_of_apart (by decide), told?_repr (by decide)]
  rfl

lemma kindOf_other {front : String}
    (h : ∀ known ∈ ["\n  Pattern: ", "   -> ", "   ... and ", "\n   ... and "], Apart known front)
    (rest : List Char) : kindOf (front.toList ++ rest) = .other := by
  rw [kindOf, behind?_of_apart (h _ (by simp)), behind?_of_apart (h _ (by simp)),
    told?_of_apart (h _ (by simp)), told?_of_apart (h _ (by simp))]
  rfl

lemma readGroups_others (count : Nat) (rest : List LineKind) :
    readGroups (List.replicate count .other ++ rest) = readGroups rest := by
  induction count with
  | zero => rfl
  | succ count ih => exact ih

/-! ### Left out issues -/

section LeftOut

variable {α β : Type} (line : Nat → α) (limit size : Nat)

/-- What tells how many of a number of issues are beyond a limit, if any are. -/
def leftOut : List α :=
  if limit < size then [line (size - limit)] else []

lemma map_leftOut (f : α → β) :
    (leftOut line limit size).map f = leftOut (fun count => f (line count)) limit size := by
  unfold leftOut
  split <;> rfl

lemma mem_leftOut {value : α} : value ∈ leftOut line limit size ↔
    limit < size ∧ value = line (size - limit) := by
  unfold leftOut
  split <;> simp [*]

end LeftOut

lemma sum_leftOut {kind : Nat → LineKind} (h : ∀ count, (kind count).issueCount = count)
    (limit size : Nat) :
    ((leftOut kind limit size).map LineKind.issueCount).sum = size - limit := by
  rw [map_leftOut]
  simp only [h]
  unfold leftOut
  split
  · simp
  · simp only [List.sum_nil]
    omega

/-! ### Blocks of a summary -/

lemma sum_ruleGroups (issues : List Issue) :
    ((ruleGroups issues).map fun group => group.2.length).sum = (issues.take blockSize).length := by
  have h := sum_groupBy Issue.ruleId (fun _ _ => 1) (issues.take blockSize)
  unfold ruleGroups
  simpa using h

lemma infix_flatMap {α β : Type} (f : α → List β) {values : List α} {value : α}
    (h : value ∈ values) : f value <:+: values.flatMap f := by
  obtain ⟨before, after, rfl⟩ := List.append_of_mem h
  exact ⟨before.flatMap f, after.flatMap f, by simp⟩

lemma severityItems_within (rules : Option RuleSet) (quiet : Bool) (detection : Detection)
    (severity : Severity) :
    severityItems rules severity (detection.bySeverity severity) <:+:
      items rules quiet detection := by
  by_cases hnone : detection.issues.isEmpty = true
  · have hissues : detection.bySeverity severity = [] := by
      rw [Detection.bySeverity, List.isEmpty_iff.mp hnone, List.filter_nil]
    rw [hissues]
    exact List.nil_infix
  · have hblock := infix_flatMap (fun severity => severityItems rules severity
      (detection.bySeverity severity)) (Severity.mem_all severity)
    have hissues : Severity.all.flatMap (fun severity => severityItems rules severity
        (detection.bySeverity severity)) <:+: issueItems rules quiet detection :=
      ⟨[.table (severityTable detection)], ruleItems detection.issues ++
        coreItems detection.issues ++ otherItems quiet detection.issues, by simp [issueItems]⟩
    have hitems : issueItems rules quiet detection <:+: items rules quiet detection :=
      ⟨[.marked "AI Slop Detection Report"], scoreItems detection.score, by simp [items, hnone]⟩
    exact hblock.trans (hissues.trans hitems)

/-! ### Lines of a group -/

/-- The beginnings of the lines that explain a rule. -/
def explanationLabels : List String := ["   Description", "   Fix", "   Learn more"]

/-- A part of an explanation may be missing or empty, and else it stands behind its label. -/
lemma exists_of_mem_labelled {label text : String} {content? : Option String}
    (h : text ∈ (match content? with
      | none => []
      | some content => if content = "" then [] else [s!"   {label}: {content}"] : List String)) :
    ∃ content : String, text = s!"   {label}: {content}" := by
  split at h
  · cases h
  · split at h
    · cases h
    · exact ⟨_, List.mem_singleton.mp h⟩

lemma exists_label_of_mem_explanation {rule : Option Rule} {issues : List Issue} {text : String}
    (h : text ∈ explanation rule issues) :
    ∃ label ∈ explanationLabels, ∃ content,
      text.toList = label.toList ++ ':' :: ' ' :: content := by
  have hdescribed (content : String) : ∃ label ∈ explanationLabels, ∃ rest,
      (s!"   Description: {content}").toList = label.toList ++ ':' :: ' ' :: rest :=
    ⟨"   Description", by simp [explanationLabels], content.toList, by
      rw [String.toList_append]
      rfl⟩
  cases rule with
  | none =>
    obtain ⟨issue, -, rfl⟩ := List.mem_map.mp h
    exact hdescribed _
  | some rule =>
    simp only [explanation, List.mem_append, List.mem_cons] at h
    obtain (rfl | hfix) | hlearn := h
    · exact hdescribed _
    · obtain ⟨content, rfl⟩ := exists_of_mem_labelled hfix
      exact ⟨"   Fix", by simp [explanationLabels], content.toList, by
        rw [String.toList_append]
        rfl⟩
    · obtain ⟨content, rfl⟩ := exists_of_mem_labelled hlearn
      exact ⟨"   Learn more", by simp [explanationLabels], content.toList, by
        rw [String.toList_append]
        rfl⟩

lemma count_toList (before after : String) (n : Nat) :
    (before ++ toString n ++ after).toList = before.toList ++ (n.repr.toList ++ after.toList) := by
  rw [String.toList_append, String.toList_append, List.append_assoc]
  rfl

lemma colons_count (before after : String) (n : Nat) :
    (before ++ toString n ++ after).toList.count ':' =
      before.toList.count ':' + after.toList.count ':' := by
  have hdigits : (toString n).toList.count ':' = 0 :=
    List.count_eq_zero.mpr (not_mem_toString (by decide) n)
  rw [String.toList_append, String.toList_append, List.count_append, List.count_append, hdigits,
    Nat.add_zero]

section Shown

variable [Library]

/-- What is shown of an issue. -/
def occurrenceText (issue : Issue) : List Char :=
  Emoji.replace (s!"{issue.file}:{issue.line} - {issue.code}").toList

lemma replace_instanceLine (issue : Issue) :
    Emoji.replace (instanceLine issue).toList = "   -> ".toList ++ occurrenceText issue := by
  simp only [instanceLine, occurrenceText, String.toList_append, List.append_assoc]
  exact Emoji.replace_front (by decide) _

lemma shown_nameItem {ruleId : String} (h : '[' ∉ ruleId.toList) :
    (nameItem ruleId).shown? = some ("\n  Pattern: ".toList ++ enclosed ruleId.toList) := by
  have hfront : Emoji.replace "\n  Pattern: ".toList = "\n  Pattern: ".toList :=
    Emoji.replace_of_count_le (by decide)
  rw [nameItem, Item.shown?, nameText_toList,
    render_between (by decide) (by decide) (harmless_of_no_bracket h), hfront]
  rfl

lemma shownLines_count {before after : String} (hbefore : '[' ∉ before.toList)
    (hafter : '[' ∉ after.toList) (hcolons : before.toList.count ':' + after.toList.count ':' ≤ 1)
    (limit size : Nat) :
    shownLines (if limit < size then [.marked (before ++ toString (size - limit) ++ after)]
      else []) =
      leftOut (fun n => before.toList ++ (n.repr.toList ++ after.toList)) limit size := by
  unfold leftOut
  split
  · rw [shownLines_fixed (not_mem_append (not_mem_append hbefore (bracket_not_mem_toString _))
      hafter) (by rwa [colons_count]), count_toList]
    rfl
  · rfl

/-- The lines of a group: its name, some lines about the rule, and the issues. -/
def groupLines (rules : Option RuleSet) (group : String × List Issue) : List (List Char) :=
  ("\n  Pattern: ".toList ++ enclosed group.1.toList) ::
    (explanation (rules.bind fun rules => rules.get? group.1) group.2).map
      (fun text => Emoji.replace text.toList) ++
    ("   Sample occurrences: ".toList ++ (group.2.length).repr.toList) ::
    (group.2.take instanceCount).map (fun issue => "   -> ".toList ++ occurrenceText issue) ++
    leftOut (fun n => "   ... and ".toList ++ (n.repr.toList ++ " more instances".toList))
      instanceCount group.2.length

lemma shownLines_groupItems (rules : Option RuleSet) {group : String × List Issue}
    (h : '[' ∉ group.1.toList) :
    shownLines (groupItems rules group.1 group.2) = groupLines rules group := by
  obtain ⟨ruleId, issues⟩ := group
  have hsample : '[' ∉ (s!"   Sample occurrences: {issues.length}").toList :=
    not_mem_append (by decide) (bracket_not_mem_toString _)
  have hcolons : (s!"   Sample occurrences: {issues.length}").toList.count ':' ≤ 1 := by
    have hcount := colons_count "   Sample occurrences: " "" issues.length
    rw [String.append_empty] at hcount
    exact hcount.le
  have hshown : shownLines ((issues.take instanceCount).map (.plain <| instanceLine ·)) =
      (issues.take instanceCount).map fun issue => "   -> ".toList ++ occurrenceText issue := by
    have hplain := shownLines_plain ((issues.take instanceCount).map instanceLine)
    rw [List.map_map, List.map_map] at hplain
    exact hplain.trans (List.map_congr_left fun issue _ => replace_instanceLine issue)
  unfold groupItems groupLines
  extract_lets rule
  rw [shownLines_append, shownLines_append, shownLines_fixed hsample hcolons, hshown,
    shownLines_count (by decide) (by decide) (by decide), String.toList_append]
  congr 2
  exact (List.filterMap_cons_some (shown_nameItem h)).trans
    (congrArg (_ :: ·) (shownLines_plain _))

/-! ### Lines of a block -/

/-- The line above the groups of a severity. -/
def severityHead (severity : Severity) : List Char :=
  (s!"\n{severity.name.toUpper} SEVERITY ISSUES").toList

lemma shownLines_severityItems (rules : Option RuleSet) (severity : Severity) {issues : List Issue}
    (h : ∀ issue ∈ issues, '[' ∉ issue.ruleId.toList) :
    shownLines (severityItems rules severity issues) =
      if issues.isEmpty then [] else
        severityHead severity :: (ruleGroups issues).flatMap (groupLines rules) ++
          leftOut (fun n => "\n   ... and ".toList ++
            (n.repr.toList ++ " more issues of this severity".toList)) blockSize issues.length := by
  unfold severityItems
  split
  · rfl
  · have hgroups : shownLines ((ruleGroups issues).flatMap fun group =>
        groupItems rules group.1 group.2) = (ruleGroups issues).flatMap (groupLines rules) := by
      rw [shownLines_flatMap]
      apply List.flatMap_congr
      intro group hgroup
      obtain ⟨issue, hissue, heq⟩ := exists_of_mem_ruleGroups hgroup
      exact shownLines_groupItems rules (heq ▸ h issue hissue)
    have hhead : '[' ∉ (s!"\n{severity.name.toUpper} SEVERITY ISSUES").toList := by
      cases severity <;> decide +kernel
    have hcolons : (s!"\n{severity.name.toUpper} SEVERITY ISSUES").toList.count ':' ≤ 1 := by
      cases severity <;> decide +kernel
    rw [shownLines_append, shownLines_fixed hhead hcolons,
      shownLines_count (by decide) (by decide) (by decide)]
    exact congrArg (fun lines => severityHead severity :: lines ++ _) hgroups

/-! ### Kinds of the lines -/

def groupKinds (rules : Option RuleSet) (group : String × List Issue) : List LineKind :=
  let texts := explanation (rules.bind fun rules => rules.get? group.1) group.2
  .name (enclosed group.1.toList) :: (List.replicate (texts.length + 1) .other ++
    (group.2.take instanceCount).map (.occurrence <| occurrenceText ·) ++
    leftOut .moreOccurrences instanceCount group.2.length)

lemma kindOf_explanation {rule : Option Rule} {issues : List Issue} {text : String}
    (h : text ∈ explanation rule issues) : kindOf (Emoji.replace text.toList) = .other := by
  obtain ⟨label, hlabel, content, heq⟩ := exists_label_of_mem_explanation h
  have hlabels : ∀ label ∈ explanationLabels, ':' ∉ label.toList ∧
      ∀ known ∈ ["\n  Pattern: ", "   -> ", "   ... and ", "\n   ... and "], Apart known label := by
    decide
  rw [heq, Emoji.replace_label (hlabels label hlabel).1, kindOf_other (hlabels label hlabel).2]

lemma kinds_groupLines (rules : Option RuleSet) (group : String × List Issue) :
    (groupLines rules group).map kindOf = groupKinds rules group := by
  obtain ⟨ruleId, issues⟩ := group
  let texts := explanation (rules.bind fun rules => rules.get? ruleId) issues
  have htexts : (texts.map fun text => Emoji.replace text.toList).map kindOf =
      List.replicate texts.length .other := by
    rw [List.map_map]
    exact List.map_eq_replicate_iff.mpr fun text htext => kindOf_explanation htext
  have hsample : kindOf ("   Sample occurrences: ".toList ++ issues.length.repr.toList) = .other :=
    kindOf_other (by decide) _
  have hshown : ((issues.take instanceCount).map fun issue =>
      "   -> ".toList ++ occurrenceText issue).map kindOf =
      (issues.take instanceCount).map (.occurrence <| occurrenceText ·) := by
    rw [List.map_map]
    exact List.map_congr_left fun issue _ => kindOf_occurrence _
  rw [groupLines, List.map_append, List.map_append, List.map_cons, List.map_cons, kindOf_name,
    htexts, hsample, hshown, map_leftOut, groupKinds, List.replicate_succ']
  simp only [kindOf_moreOccurrences]
  simp [texts]

lemma kinds_severityItems (rules : Option RuleSet) (severity : Severity) {issues : List Issue}
    (h : ∀ issue ∈ issues, '[' ∉ issue.ruleId.toList) :
    (shownLines (severityItems rules severity issues)).map kindOf =
      if issues.isEmpty then [] else
        .other :: (ruleGroups issues).flatMap (groupKinds rules) ++
          leftOut .moreIssues blockSize issues.length := by
  have hhead : kindOf (severityHead severity) = .other := by
    cases severity <;> decide +kernel
  have hgroups : ((ruleGroups issues).flatMap (groupLines rules)).map kindOf =
      (ruleGroups issues).flatMap (groupKinds rules) := by
    rw [List.map_flatMap]
    exact List.flatMap_congr fun group _ => kinds_groupLines rules group
  rw [shownLines_severityItems rules severity h]
  split
  · rfl
  · rw [List.map_append, List.map_cons, hhead, hgroups, map_leftOut]
    simp only [kindOf_moreIssues]

/-! ### Groups and issues of a block -/

lemma readGroups_occurrences (issues : List Issue) (rest : List LineKind) :
    readGroups (issues.map (.occurrence <| occurrenceText ·) ++ rest) =
      (issues.map occurrenceText ++ (readGroups rest).1, (readGroups rest).2) := by
  induction issues with
  | nil => rfl
  | cons issue issues ih =>
    rw [List.map_cons, List.cons_append, readGroups, ih]
    rfl

lemma readGroups_groupKinds (rules : Option RuleSet) (group : String × List Issue)
    {rest : List LineKind} (h : (readGroups rest).1 = []) :
    readGroups (groupKinds rules group ++ rest) = ([], (enclosed group.1.toList,
      (group.2.take instanceCount).map occurrenceText) :: (readGroups rest).2) := by
  have hmore : readGroups (leftOut .moreOccurrences instanceCount group.2.length ++ rest) =
      readGroups rest := by
    unfold leftOut
    split <;> rfl
  rw [groupKinds, List.cons_append, List.append_assoc, List.append_assoc, readGroups,
    readGroups_others, readGroups_occurrences, hmore, h, List.append_nil]

lemma sum_groupKinds (rules : Option RuleSet) (group : String × List Issue) :
    ((groupKinds rules group).map LineKind.issueCount).sum = group.2.length := by
  have hshown : (((group.2.take instanceCount).map (LineKind.occurrence <| occurrenceText ·)).map
      LineKind.issueCount).sum = (group.2.take instanceCount).length := by
    have hone : LineKind.issueCount ∘ (LineKind.occurrence <| occurrenceText ·) = fun _ => 1 := rfl
    rw [List.map_map, hone, List.map_const', List.sum_replicate_nat, Nat.mul_one]
  rw [groupKinds, List.map_cons, List.sum_cons, List.map_append, List.sum_append,
    sum_leftOut fun _ => rfl, List.map_append, List.sum_append, hshown, List.map_replicate,
    List.sum_replicate_nat, List.length_take]
  simp only [LineKind.issueCount]
  omega

/-- What is read from a block when nothing but a line about left out issues follows the groups. -/
lemma readGroups_flatMap (rules : Option RuleSet) (groups : List (String × List Issue))
    {rest : List LineKind} (h : readGroups rest = ([], [])) :
    readGroups (groups.flatMap (groupKinds rules) ++ rest) =
      ([], groups.map fun group => (enclosed group.1.toList,
        (group.2.take instanceCount).map occurrenceText)) := by
  induction groups with
  | nil => exact h
  | cons group groups ih =>
    rw [List.flatMap_cons, List.append_assoc, readGroups_groupKinds rules group (by rw [ih]), ih,
      List.map_cons]

lemma sum_flatMap_groupKinds (rules : Option RuleSet) (groups : List (String × List Issue)) :
    ((groups.flatMap (groupKinds rules)).map LineKind.issueCount).sum =
      (groups.map fun group => group.2.length).sum := by
  induction groups with
  | nil => rfl
  | cons group groups ih =>
    rw [List.flatMap_cons, List.map_append, List.sum_append, sum_groupKinds, ih, List.map_cons,
      List.sum_cons]

lemma readGroups_severityItems (rules : Option RuleSet) (severity : Severity) {issues : List Issue}
    (h : ∀ issue ∈ issues, '[' ∉ issue.ruleId.toList) :
    (readGroups ((shownLines (severityItems rules severity issues)).map kindOf)).2 =
      (ruleGroups issues).map fun group => (enclosed group.1.toList,
        (group.2.take instanceCount).map occurrenceText) := by
  rw [kinds_severityItems rules severity h]
  split
  next hnone => rw [List.isEmpty_iff.mp hnone]; rfl
  next =>
    have hmore : readGroups (leftOut .moreIssues blockSize issues.length) = ([], []) := by
      unfold leftOut
      split <;> rfl
    exact congrArg Prod.snd (readGroups_flatMap rules (ruleGroups issues) hmore)

lemma sum_severityItems (rules : Option RuleSet) (severity : Severity) {issues : List Issue}
    (h : ∀ issue ∈ issues, '[' ∉ issue.ruleId.toList) :
    (((shownLines (severityItems rules severity issues)).map kindOf).map
      LineKind.issueCount).sum = issues.length := by
  rw [kinds_severityItems rules severity h]
  split
  next hnone => rw [List.isEmpty_iff.mp hnone]; rfl
  next =>
    rw [List.cons_append, List.map_cons, List.sum_cons, List.map_append, List.sum_append,
      sum_flatMap_groupKinds, sum_ruleGroups, sum_leftOut fun _ => rfl, List.length_take]
    simp only [LineKind.issueCount]
    omega

/-! ### Blocks of a report -/

/-- The block of a severity in a report reads as the groups of its first twenty issues by the ids of
their rules, in the order of first appearance, each with its first three issues. The issues it shows
and the numbers of those it leaves out add up to all issues of the severity.

The name of a group is the id of its rule only if the id neither ends in a backslash nor has the
code of an emoji. Names tell ids without such codes apart. -/
theorem severity_block_accounts {detection : Detection}
    (hids : ∀ issue ∈ detection.issues, '[' ∉ issue.ruleId.toList) (rules : Option RuleSet)
    (quiet : Bool) (severity : Severity) :
    let issues := detection.bySeverity severity
    let first := issues.take 20
    let ids := (first.map Issue.ruleId).eraseDups
    let lines := shownLines (severityItems rules severity issues)
    let groups := (readGroups (lines.map kindOf)).2
    lines <:+: shownLines (items rules quiet detection) ∧
      groups = ids.map (fun id => (enclosed id.toList,
        ((first.filter fun issue => issue.ruleId == id).take 3).map fun issue =>
          Emoji.replace (s!"{issue.file}:{issue.line} - {issue.code}").toList)) ∧
      (∀ id ∈ ids, enclosed id.toList = id.toList ↔
        id.toList.getLast? ≠ some '\\' ∧ Emoji.replace id.toList = id.toList) ∧
      ((ids.filter fun id => Emoji.replace id.toList = id.toList).map
        fun id => enclosed id.toList).Nodup ∧
      ((lines.map kindOf).map LineKind.issueCount).sum = issues.length := by
  intro issues first ids lines groups
  have hissues : ∀ issue ∈ issues, '[' ∉ issue.ruleId.toList :=
    fun issue hissue => hids issue (List.mem_of_mem_filter hissue)
  have hgroups : groups = ids.map fun id => (enclosed id.toList,
      ((first.filter fun issue => issue.ruleId == id).take 3).map occurrenceText) := by
    have hclosed := groupBy_eq Issue.ruleId first
    refine (readGroups_severityItems rules severity hissues).trans ?_
    rw [ruleGroups, show issues.take blockSize = first from rfl, hclosed, List.map_map]
    rfl
  have hbracket : ∀ id ∈ ids, '[' ∉ id.toList := by
    intro id hid
    obtain ⟨issue, hissue, rfl⟩ := List.mem_map.mp (List.mem_eraseDups.mp hid)
    exact hissues issue (List.mem_of_mem_take hissue)
  refine ⟨?_, hgroups, fun id hid => enclosed_eq_self_iff (hbracket id hid), ?_,
    sum_severityItems rules severity hissues⟩
  · exact (severityItems_within rules quiet detection severity).filterMap _
  · refine List.Nodup.map_on ?_ ((nodup_eraseDups _).filter _)
    intro id hid other hother heq
    obtain ⟨hid, hcodes⟩ := List.mem_filter.mp hid
    obtain ⟨hother, hotherCodes⟩ := List.mem_filter.mp hother
    exact String.toList_injective (enclosed_injOn (hbracket id hid) (hbracket other hother)
      (of_decide_eq_true hcodes) (of_decide_eq_true hotherCodes) heq)

end Shown

/-- Findings of one rule with low severity, on as many lines of a file. -/
def lowIssues (ruleId : String) (count : Nat) : List Issue :=
  (List.range count).map fun i => ⟨ruleId, "a.ts", i + 1, 1, "foo", "m", "low"⟩

theorem severity_block_accounts_fourFindings :
    letI := Library.plain []
    (∀ issue ∈ (Detection.ofIssues (lowIssues "todo" 4) 1).issues, '[' ∉ issue.ruleId.toList) ∧
      (readGroups ((shownLines (severityItems none .low
        ((Detection.ofIssues (lowIssues "todo" 4) 1).bySeverity .low))).map kindOf)).2 =
          [("todo".toList,
            ["a.ts:1 - foo".toList, "a.ts:2 - foo".toList, "a.ts:3 - foo".toList])] ∧
      (((shownLines (severityItems none .low
        ((Detection.ofIssues (lowIssues "todo" 4) 1).bySeverity .low))).map kindOf).map
          LineKind.issueCount).sum = 4 := by
  let := Library.plain []
  have hids : ∀ issue ∈ (Detection.ofIssues (lowIssues "todo" 4) 1).issues,
      '[' ∉ issue.ruleId.toList := by decide +kernel
  obtain ⟨-, hgroups, -, -, hsum⟩ := severity_block_accounts hids none false .low
  exact ⟨hids, hgroups.trans (by decide +kernel), hsum.trans (by decide +kernel)⟩

/-- A backslash at the end of an id takes the tag behind it for the name of the group. -/
theorem trailing_backslash_misnames_group :
    letI := Library.plain []
    (∀ issue ∈ lowIssues "x\\" 1, '[' ∉ issue.ruleId.toList) ∧
      (readGroups ((shownLines (severityItems none .low (lowIssues "x\\" 1))).map kindOf)).2.map
        Prod.fst = ["x[/]".toList] ∧
      ((lowIssues "x\\" 1).map fun issue => issue.ruleId.toList).eraseDups = ["x\\".toList] := by
  decide +kernel

end SlopLint.Summary
