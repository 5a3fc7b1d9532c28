import SlopLint.Proofs.SeverityBlocks

/-!
# Rankings

Sorting by counts keeps the order of values with equal counts, so a ranking puts the values of the
issues in a strict order: by their counts, and else by their first appearances. A report lists the
first of them, with the files of the application itself apart from the others.
-/

namespace SlopLint.Summary

open Console

/-! ### Sorting -/

/-- A sorted list keeps the order of elements that neither come before the other. -/
lemma pairwise_mergeSort_stable {α : Type} {le : α → α → Bool} {r : α → α → Prop} {values : List α}
    (htrans : ∀ a b c, le a b → le b c → le a c) (htotal : ∀ a b, le a b || le b a)
    (h : values.Pairwise r) :
    (values.mergeSort le).Pairwise fun a b => le a b ∧ (le b a → r a b) := by
  have hsorted := List.pairwise_mergeSort htrans htotal values
  rw [List.pairwise_iff_forall_sublist]
  intro a b hpair
  have hab : le a b := List.pairwise_iff_forall_sublist.mp hsorted hpair
  refine ⟨hab, fun hba => ?_⟩
  -- The elements that are equal to the first one are a sublist of the sorted list, and as it has no
  -- others of them, they are all of them there.
  let equal (x : α) : Bool := le a x && le x a
  have hequal : (values.filter equal).Pairwise fun x y => le x y := by
    apply List.pairwise_of_forall_mem_list
    intro x hx y hy
    have hxa := (Bool.and_eq_true_iff.mp (List.mem_filter.mp hx).2).2
    have hay := (Bool.and_eq_true_iff.mp (List.mem_filter.mp hy).2).1
    exact htrans x a y hxa hay
  have hkept : (values.filter equal).Sublist (values.mergeSort le) :=
    List.sublist_mergeSort htrans htotal hequal List.filter_sublist
  have hsame : values.filter equal = (values.mergeSort le).filter equal := by
    have hsublist := hkept.filter equal
    simp only [List.filter_filter, Bool.and_self] at hsublist
    exact hsublist.eq_of_length ((List.mergeSort_perm values le).filter equal).length_eq.symm
  have hfiltered : [a, b].Sublist (values.filter equal) := by
    have hself : le a a = true := by simpa using htotal a a
    have hsublist := hpair.filter equal
    rw [← hsame] at hsublist
    simpa [equal, hself, hab, hba] using hsublist
  exact List.pairwise_iff_forall_sublist.mp h (hfiltered.trans List.filter_sublist)

/-! ### Rankings -/

/-- How many issues have a value. -/
def valueCount (value : Issue → String) (issues : List Issue) (v : String) : Nat :=
  issues.countP fun issue => value issue == v

/-- One value comes before another: more issues have it, or as many and the first of them comes
before those of the other. -/
def Precedes (value : Issue → String) (issues : List Issue) (v w : String) : Prop :=
  valueCount value issues w < valueCount value issues v ∨
    valueCount value issues v = valueCount value issues w ∧
      (issues.map value).idxOf v < (issues.map value).idxOf w

instance (value : Issue → String) (issues : List Issue) (v w : String) :
    Decidable (Precedes value issues v w) :=
  inferInstanceAs (Decidable (_ ∨ _))

/-- All values of issues, each once, in their order. -/
structure IsRanking (value : Issue → String) (issues : List Issue) (ranked : List String) :
    Prop where
  nodup : ranked.Nodup
  mem_iff : ∀ v, v ∈ ranked ↔ ∃ issue ∈ issues, value issue = v
  ordered : ranked.Pairwise (Precedes value issues)

variable {value : Issue → String} {issues : List Issue}

lemma isRanking_of_perm {ranked : List String} (hperm : ranked.Perm (issues.map value).eraseDups)
    (hordered : ranked.Pairwise (Precedes value issues)) : IsRanking value issues ranked where
  nodup := hperm.nodup_iff.mpr (nodup_eraseDups _)
  mem_iff v := by rw [hperm.mem_iff, List.mem_eraseDups, List.mem_map]
  ordered := hordered

/-- There is only one ranking. -/
theorem IsRanking.unique {ranked others : List String} (h : IsRanking value issues ranked)
    (hothers : IsRanking value issues others) : ranked = others := by
  have hperm : ranked.Perm others := by
    rw [List.perm_ext_iff_of_nodup h.nodup hothers.nodup]
    intro v
    rw [h.mem_iff, hothers.mem_iff]
  refine hperm.eq_of_pairwise ?_ h.ordered hothers.ordered
  intro v w _ _ hvw hwv
  unfold Precedes at hvw hwv
  omega

def rankedValues (value : Issue → String) (issues : List Issue) : List String :=
  (ranking value issues).map Prod.fst

lemma counts_eq (value : Issue → String) (issues : List Issue) :
    (groupBy value issues).map (fun (v, members) => (v, members.length)) =
      (issues.map value).eraseDups.map fun v => (v, valueCount value issues v) := by
  rw [groupBy_eq, List.map_map]
  apply List.map_congr_left
  intro v _
  simp [valueCount, List.countP_eq_length_filter]

lemma ranking_eq (value : Issue → String) (issues : List Issue) :
    ranking value issues =
      (rankedValues value issues).map fun v => (v, valueCount value issues v) := by
  rw [rankedValues, List.map_map]
  symm
  refine (List.map_congr_left ?_).trans (List.map_id _)
  intro entry hentry
  rw [ranking, List.mem_mergeSort, counts_eq] at hentry
  obtain ⟨v, -, rfl⟩ := List.mem_map.mp hentry
  rfl

lemma rankedValues_perm (value : Issue → String) (issues : List Issue) :
    (rankedValues value issues).Perm (issues.map value).eraseDups := by
  have hperm := (List.mergeSort_perm ((groupBy value issues).map fun (v, members) =>
    (v, members.length)) fun a b => decide (b.2 ≤ a.2)).map Prod.fst
  have hkeys := groupBy_keys value issues
  rw [List.map_map] at hperm
  exact hperm.trans (.of_eq hkeys)

theorem isRanking_rankedValues (value : Issue → String) (issues : List Issue) :
    IsRanking value issues (rankedValues value issues) := by
  apply isRanking_of_perm (rankedValues_perm value issues)
  have hfirst : ((groupBy value issues).map fun (v, members) => (v, members.length)).Pairwise
      fun a b => (issues.map value).idxOf a.1 < (issues.map value).idxOf b.1 := by
    rw [counts_eq, List.pairwise_map]
    exact pairwise_idxOf_eraseDups _
  let le (a b : String × Nat) : Bool := decide (b.2 ≤ a.2)
  have htrans : ∀ a b c, le a b → le b c → le a c := by
    simp only [le, decide_eq_true_iff]
    omega
  have htotal : ∀ a b, le a b || le b a := by
    simp only [le, Bool.or_eq_true, decide_eq_true_iff]
    omega
  have hstable := pairwise_mergeSort_stable htrans htotal hfirst
  have hranked : (ranking value issues).Pairwise fun a b =>
      b.2 ≤ a.2 ∧ (a.2 ≤ b.2 → (issues.map value).idxOf a.1 < (issues.map value).idxOf b.1) := by
    unfold ranking
    simpa [le] using hstable
  rw [ranking_eq, List.pairwise_map] at hranked
  refine hranked.imp ?_
  rintro v w ⟨hle, htie⟩
  rcases Nat.lt_or_eq_of_le hle with hlt | heq
  · exact .inl hlt
  · exact .inr ⟨heq.symm, htie heq.ge⟩

/-- Some lines show the first values of a ranking, and no value that they leave out counts more than
one they show. -/
structure ShowsFirst (limit : Nat) (ranked : List String) (count : String → Nat)
    (entry : String → List Char) (lines : List (List Char)) : Prop where
  lines_eq : lines = (ranked.take limit).map entry
  count_le : ∀ v ∈ ranked.take limit, ∀ w ∈ ranked.drop limit, count w ≤ count v

lemma showsFirst {ranked : List String} (h : ranked.Pairwise (Precedes value issues)) (limit : Nat)
    (entry : String → List Char) :
    ShowsFirst limit ranked (valueCount value issues) entry ((ranked.take limit).map entry) := by
  refine ⟨rfl, ?_⟩
  rw [← List.take_append_drop limit ranked, List.pairwise_append] at h
  intro v hv w hw
  rcases h.2.2 v hv w hw with hlt | ⟨heq, -⟩
  · exact hlt.le
  · exact heq.ge

/-! ### Entries of a report -/

/-- The lines below a heading that are set in. -/
def entriesUnder (heading : String) (lines : List (List Char)) : List (List Char) :=
  ((lines.dropWhile (· != heading.toList)).drop 1).takeWhile ("  ".toList.isPrefixOf ·)

lemma entriesUnder_of_notMem {heading : String} {lines : List (List Char)}
    (h : heading.toList ∉ lines) : entriesUnder heading lines = [] := by
  have hnone : lines.dropWhile (· != heading.toList) = [] := by
    rw [List.dropWhile_eq_nil_iff]
    intro line hline
    exact bne_iff_ne.mpr (ne_of_mem_of_not_mem hline h)
  rw [entriesUnder, hnone]
  rfl

lemma entriesUnder_append {heading : String} {before entries after : List (List Char)}
    (hbefore : heading.toList ∉ before) (hentries : ∀ entry ∈ entries, "  ".toList <+: entry)
    (hafter : ∀ line ∈ after.head?, ¬ "  ".toList <+: line) :
    entriesUnder heading (before ++ heading.toList :: (entries ++ after)) = entries := by
  have hfront : ∀ line ∈ before, (line != heading.toList) = true :=
    fun line hline => bne_iff_ne.mpr (ne_of_mem_of_not_mem hline hbefore)
  have hend : after.takeWhile ("  ".toList.isPrefixOf ·) = [] := by
    cases after with
    | nil => rfl
    | cons line rest =>
      have hline := hafter line rfl
      rw [← List.isPrefixOf_iff_prefix] at hline
      exact List.takeWhile_cons_of_neg hline
  rw [entriesUnder, List.dropWhile_append_of_pos hfront, List.dropWhile_cons_of_neg (by simp),
    List.drop_one, List.tail_cons, List.takeWhile_append_of_pos
      fun entry hentry => List.isPrefixOf_iff_prefix.mpr (hentries entry hentry), hend,
    List.append_nil]

/-- The headings of the lists. -/
def listHeadings : List String := [
  "\nIssues by type:", "\nTop CORE APPLICATION files with AI slop issues:",
  "\nTop OTHER files with AI slop issues (utilities, scripts, etc.):"]

lemma verdictLine_not_indented (verdict : Verdict) :
    ¬ "  ".toList <+: (verdictLine verdict).toList := by
  cases verdict <;> decide

lemma heading_not_indented {heading : String} (hheading : heading ∈ listHeadings) :
    ¬ "  ".toList <+: heading.toList := by
  revert heading
  decide

/-- Files in one of the directories of the application itself. -/
def IsCore (file : String) : Prop :=
  ∃ directory ∈ ["app/", "components/", "lib/", "hooks/", "services/"],
    directory.toList <+: file.toList.map fun c => if c = '\\' then '/' else c

instance : DecidablePred IsCore :=
  fun _ => inferInstanceAs (Decidable (∃ directory ∈ _, _))

lemma startsInCore_normalize (file : String) :
    FileKind.startsInCore (FileKind.normalize file) = decide (IsCore file) := by
  have hslashes : FileKind.normalize file =
      file.toList.map fun c => if c = '\\' then '/' else c := by
    simp only [FileKind.normalize, Text.replaceChar, beq_iff_eq]
  rw [Bool.eq_iff_iff, decide_eq_true_iff, FileKind.startsInCore, List.any_eq_true, hslashes]
  simp only [List.isPrefixOf_iff_prefix]
  rfl

lemma rankedFiles_eq (core : Bool) (issues : List Issue) :
    rankedFiles core issues =
      ((rankedValues Issue.file issues).filter fun file => decide (IsCore file) == core).map
        fun file => (file, valueCount Issue.file issues file) := by
  rw [rankedFiles, ranking_eq, List.filter_map]
  simp only [startsInCore_normalize, Function.comp_def]

section Shown

variable [Library]

/-- What the lists of a report show of an issue's rule and of its file. -/
def typeEntry (issues : List Issue) (ruleId : String) : List Char :=
  "  ".toList ++ (Emoji.replace (ruleId ++ ":").toList ++
    (s!" {valueCount Issue.ruleId issues ruleId}").toList)

def fileEntry (issues : List Issue) (file : String) : List Char :=
  "  ".toList ++ (Emoji.replace (file ++ ":").toList ++
    (s!" {valueCount Issue.file issues file} issues").toList)

lemma replace_name {name : String} (h : ':' ∉ name.toList) :
    Emoji.replace (name ++ ":").toList = (name ++ ":").toList := by
  apply Emoji.replace_of_count_le
  rw [String.toList_append, List.count_append, List.count_eq_zero.mpr h]
  decide

/-- The codes of an entry are those of its name with the colon behind it. -/
lemma replace_entry (name : String) (rest : List Char) (hrest : ':' ∉ rest) :
    Emoji.replace ("  ".toList ++ ((name ++ ":").toList ++ ' ' :: rest)) =
      "  ".toList ++ (Emoji.replace (name ++ ":").toList ++ ' ' :: rest) := by
  rw [Emoji.replace_front (by decide), Emoji.replace_blank (by decide),
    Emoji.replace_of_no_colon hrest]

lemma replace_typeText (issues : List Issue) (ruleId : String) :
    Emoji.replace (s!"  {ruleId}: {valueCount Issue.ruleId issues ruleId}").toList =
      typeEntry issues ruleId := by
  have hentry := replace_entry ruleId (toString (valueCount Issue.ruleId issues ruleId)).toList
    (not_mem_toString (by decide) _)
  simp only [typeEntry, String.toList_append, List.append_assoc] at hentry ⊢
  exact hentry

lemma replace_fileLine (issues : List Issue) (file : String) :
    Emoji.replace (fileLine file (valueCount Issue.file issues file)).toList =
      fileEntry issues file := by
  have hentry := replace_entry file
    (toString (valueCount Issue.file issues file) ++ " issues").toList
    (not_mem_append (not_mem_toString (by decide) _) (by decide))
  simp only [fileLine, fileEntry, String.toList_append, List.append_assoc] at hentry ⊢
  exact hentry

lemma shownLines_map_marked {text : String → String} {values : List String}
    (h : ∀ v ∈ values, '[' ∉ (text v).toList) :
    shownLines (values.map fun v => .marked (text v)) =
      values.map fun v => Emoji.replace (text v).toList := by
  induction values with
  | nil => rfl
  | cons v values ih =>
    rw [List.forall_mem_cons] at h
    rw [List.map_cons, shownLines_marked h.1, ih h.2, List.map_cons]

lemma shownLines_ruleItems {issues : List Issue} (h : ∀ issue ∈ issues, '[' ∉ issue.ruleId.toList) :
    shownLines (ruleItems issues) = "\nIssues by type:".toList ::
      ((rankedValues Issue.ruleId issues).take 10).map (typeEntry issues) := by
  have hentry : ∀ id ∈ (rankedValues Issue.ruleId issues).take 10,
      '[' ∉ (s!"  {id}: {valueCount Issue.ruleId issues id}").toList := by
    intro id hid
    obtain ⟨issue, hissue, rfl⟩ :=
      ((isRanking_rankedValues Issue.ruleId issues).mem_iff id).mp (List.mem_of_mem_take hid)
    exact not_mem_append (not_mem_append (not_mem_append (by decide) (h issue hissue)) (by decide))
      (bracket_not_mem_toString _)
  have hshown := shownLines_map_marked hentry
  simp only [replace_typeText] at hshown
  rw [ruleItems, shownLines_fixed (by decide) (by decide), ranking_eq, ← List.map_take,
    List.map_map]
  exact congrArg (_ :: ·) hshown

lemma shownLines_files (issues : List Issue) (files : List String) :
    shownLines ((files.map fun file => (file, valueCount Issue.file issues file)).map
      fun (file, count) => .plain (fileLine file count)) = files.map (fileEntry issues) := by
  have hplain := shownLines_plain (files.map fun file =>
    fileLine file (valueCount Issue.file issues file))
  rw [List.map_map, List.map_map] at hplain
  rw [List.map_map]
  exact hplain.trans (List.map_congr_left fun file _ => replace_fileLine issues file)

/-- The entries for the files of the application itself. -/
def coreEntries (issues : List Issue) : List (List Char) :=
  let files := (rankedValues Issue.file issues).filter (IsCore ·)
  if files = [] then ["  No core application files found with issues".toList]
  else (files.take 10).map (fileEntry issues)

lemma shownLines_coreItems (issues : List Issue) :
    shownLines (coreItems issues) =
      "\nTop CORE APPLICATION files with AI slop issues:".toList :: coreEntries issues := by
  unfold coreEntries
  extract_lets files
  have hfiles : rankedFiles true issues =
      files.map fun file => (file, valueCount Issue.file issues file) := by
    rw [rankedFiles_eq]
    simp only [beq_true]
    rfl
  rw [coreItems, hfiles, ← List.map_take, shownLines_fixed (by decide) (by decide)]
  by_cases hnone : files = []
  · rw [if_pos hnone, if_pos (by simp [hnone])]
    exact congrArg (_ :: ·) (shownLines_fixed (by decide) (by decide) [])
  · rw [if_neg hnone, if_neg (by simp [hnone, coreCount])]
    exact congrArg (_ :: ·) (shownLines_files issues _)

lemma shownLines_otherItems (quiet : Bool) (issues : List Issue) :
    let files := (rankedValues Issue.file issues).filter (¬ IsCore ·)
    shownLines (otherItems quiet issues) =
      if quiet ∨ files = [] then []
      else "\nTop OTHER files with AI slop issues (utilities, scripts, etc.):".toList ::
        (files.take 5).map (fileEntry issues) := by
  intro files
  have hfiles : rankedFiles false issues =
      files.map fun file => (file, valueCount Issue.file issues file) := by
    rw [rankedFiles_eq]
    simp only [beq_false, ← decide_not]
    rfl
  rw [otherItems, hfiles, ← List.map_take]
  by_cases hnone : quiet ∨ files = []
  · rw [if_pos hnone, if_pos (by simpa [otherCount] using hnone)]
    rfl
  · rw [if_neg hnone, if_neg (by simpa [otherCount] using hnone),
      shownLines_fixed (by decide) (by decide)]
    exact congrArg (_ :: ·) (shownLines_files issues _)

/-! ### Lines of a report -/

lemma front_of_mem_groupLines {rules : Option RuleSet} {group : String × List Issue}
    {line : List Char} (h : line ∈ groupLines rules group) :
    "\n  ".toList <+: line ∨ "   ".toList <+: line := by
  have hlabels : ∀ label ∈ explanationLabels, ':' ∉ label.toList ∧
      "   ".toList <+: label.toList := by decide
  simp only [groupLines, List.mem_append, List.mem_cons, List.mem_map] at h
  obtain ((rfl | ⟨text, htext, rfl⟩) | rfl | ⟨issue, -, rfl⟩) | hmore := h
  · exact .inl (.trans (by decide) (List.prefix_append _ _))
  · obtain ⟨label, hlabel, content, heq⟩ := exists_label_of_mem_explanation htext
    rw [heq, Emoji.replace_label (hlabels label hlabel).1]
    exact .inr ((hlabels label hlabel).2.trans (List.prefix_append _ _))
  · exact .inr (.trans (by decide) (List.prefix_append _ _))
  · exact .inr (.trans (by decide) (List.prefix_append _ _))
  · rw [((mem_leftOut _ _ _).mp hmore).2]
    exact .inr (.trans (by decide) (List.prefix_append _ _))

lemma heading_notMem_block {heading : String} (hheading : heading ∈ listHeadings)
    (rules : Option RuleSet) (severity : Severity) {issues : List Issue}
    (h : ∀ issue ∈ issues, '[' ∉ issue.ruleId.toList) :
    heading.toList ∉ shownLines (severityItems rules severity issues) := by
  have hfront : ¬ ("\n  ".toList <+: heading.toList ∨ "   ".toList <+: heading.toList) := by
    revert heading
    decide
  have hhead : heading.toList ≠ severityHead severity := by
    revert heading
    cases severity <;> decide +kernel
  rw [shownLines_severityItems rules severity h]
  split
  · exact List.not_mem_nil
  · simp only [List.mem_append, List.mem_cons, List.mem_flatMap]
    rintro ((heq | ⟨group, -, hline⟩) | hmore)
    · exact hhead heq
    · exact hfront (front_of_mem_groupLines hline)
    · rw [((mem_leftOut _ _ _).mp hmore).2] at hfront
      exact hfront (.inl (.trans (by decide) (List.prefix_append _ _)))

/-- The lines of a report above its lists. -/
def linesAbove (rules : Option RuleSet) (detection : Detection) : List (List Char) :=
  "AI Slop Detection Report".toList :: Severity.all.flatMap fun severity =>
    shownLines (severityItems rules severity (detection.bySeverity severity))

lemma heading_notMem_above {heading : String} (hheading : heading ∈ listHeadings)
    (rules : Option RuleSet) {detection : Detection}
    (h : ∀ issue ∈ detection.issues, '[' ∉ issue.ruleId.toList) :
    heading.toList ∉ linesAbove rules detection := by
  have htitle : heading.toList ≠ "AI Slop Detection Report".toList := by
    revert heading
    decide
  rw [linesAbove, List.mem_cons, not_or]
  refine ⟨htitle, ?_⟩
  simp only [List.mem_flatMap, not_exists, not_and]
  intro severity _
  exact heading_notMem_block hheading rules severity
    fun issue hissue => h issue (List.mem_of_mem_filter hissue)

lemma shownLines_items (rules : Option RuleSet) (quiet : Bool) {detection : Detection}
    (hsome : detection.issues ≠ []) :
    shownLines (items rules quiet detection) = linesAbove rules detection ++
      (shownLines (ruleItems detection.issues) ++ (shownLines (coreItems detection.issues) ++
        (shownLines (otherItems quiet detection.issues) ++
          [(verdictLine detection.score.verdict).toList]))) := by
  have hscore : shownLines (scoreItems detection.score) =
      [(verdictLine detection.score.verdict).toList] := by
    have hverdict : '[' ∉ (verdictLine detection.score.verdict).toList := by
      cases detection.score.verdict <;> decide
    have hcolons : (verdictLine detection.score.verdict).toList.count ':' ≤ 1 := by
      cases detection.score.verdict <;> decide
    exact shownLines_fixed hverdict hcolons []
  have htable : shownLines (.table (severityTable detection) :: Severity.all.flatMap fun severity =>
      severityItems rules severity (detection.bySeverity severity)) =
      Severity.all.flatMap fun severity =>
        shownLines (severityItems rules severity (detection.bySeverity severity)) :=
    shownLines_flatMap _ _
  unfold items
  extract_lets body
  rw [show body = issueItems rules quiet detection from if_neg (by simpa using hsome), issueItems,
    shownLines_append, shownLines_fixed (by decide) (by decide), shownLines_append,
    shownLines_append, shownLines_append, htable, hscore, linesAbove]
  simp only [List.append_assoc, List.cons_append]

/-! ### Lists of a report -/

lemma typeEntry_indented (issues : List Issue) (ruleId : String) :
    "  ".toList <+: typeEntry issues ruleId :=
  List.prefix_append _ _

lemma fileEntry_indented (issues : List Issue) (file : String) :
    "  ".toList <+: fileEntry issues file :=
  List.prefix_append _ _

lemma indented_of_mem_coreEntries {issues : List Issue} {line : List Char}
    (h : line ∈ coreEntries issues) : "  ".toList <+: line := by
  unfold coreEntries at h
  extract_lets files at h
  split at h
  · rw [List.mem_singleton.mp h]
    decide
  · obtain ⟨file, -, rfl⟩ := List.mem_map.mp h
    exact fileEntry_indented issues file

lemma heading_notMem_ruleItems {heading : String} (hheading : heading ∈ listHeadings)
    (hother : heading ≠ "\nIssues by type:") {issues : List Issue}
    (h : ∀ issue ∈ issues, '[' ∉ issue.ruleId.toList) :
    heading.toList ∉ shownLines (ruleItems issues) := by
  rw [shownLines_ruleItems h, List.mem_cons, not_or]
  refine ⟨fun heq => hother (String.toList_injective heq), fun hmem => ?_⟩
  obtain ⟨id, -, heq⟩ := List.mem_map.mp hmem
  exact heading_not_indented hheading (heq ▸ typeEntry_indented issues id)

lemma heading_notMem_coreItems {heading : String} (hheading : heading ∈ listHeadings)
    (hother : heading ≠ "\nTop CORE APPLICATION files with AI slop issues:")
    (issues : List Issue) : heading.toList ∉ shownLines (coreItems issues) := by
  rw [shownLines_coreItems, List.mem_cons, not_or]
  refine ⟨fun heq => hother (String.toList_injective heq), fun hmem => ?_⟩
  exact heading_not_indented hheading (indented_of_mem_coreEntries hmem)

section Lists

variable {detection : Detection} (hids : ∀ issue ∈ detection.issues, '[' ∉ issue.ruleId.toList)
  (hsome : detection.issues ≠ []) (rules : Option RuleSet) (quiet : Bool)

include hids hsome

lemma typeEntries_eq :
    entriesUnder "\nIssues by type:" (shownLines (items rules quiet detection)) =
      ((rankedValues Issue.ruleId detection.issues).take 10).map (typeEntry detection.issues) := by
  rw [shownLines_items rules quiet hsome, shownLines_ruleItems hids, List.cons_append,
    shownLines_coreItems]
  refine entriesUnder_append (heading_notMem_above (by simp [listHeadings]) rules hids) ?_ ?_
  · exact List.forall_mem_map.mpr fun id _ => typeEntry_indented _ id
  · intro line hline
    obtain rfl : "\nTop CORE APPLICATION files with AI slop issues:".toList = line := by
      simpa using hline
    decide

lemma coreEntries_eq :
    entriesUnder "\nTop CORE APPLICATION files with AI slop issues:"
      (shownLines (items rules quiet detection)) = coreEntries detection.issues := by
  rw [shownLines_items rules quiet hsome, shownLines_coreItems, List.cons_append,
    ← List.append_assoc]
  refine entriesUnder_append ?_ (fun line => indented_of_mem_coreEntries) ?_
  · rw [List.mem_append, not_or]
    exact ⟨heading_notMem_above (by simp [listHeadings]) rules hids,
      heading_notMem_ruleItems (by simp [listHeadings]) (by decide) hids⟩
  · intro line hline
    rw [shownLines_otherItems] at hline
    split at hline
    · obtain rfl : (verdictLine detection.score.verdict).toList = line := by simpa using hline
      exact verdictLine_not_indented _
    · obtain rfl : "\nTop OTHER files with AI slop issues (utilities, scripts, etc.):".toList =
        line := by simpa using hline
      decide

lemma otherEntries_eq :
    entriesUnder "\nTop OTHER files with AI slop issues (utilities, scripts, etc.):"
      (shownLines (items rules quiet detection)) = if quiet then [] else
        (((rankedValues Issue.file detection.issues).filter (¬ IsCore ·)).take 5).map
          (fileEntry detection.issues) := by
  have hheading : "\nTop OTHER files with AI slop issues (utilities, scripts, etc.):" ∈
      listHeadings := by simp [listHeadings]
  have hbefore : "\nTop OTHER files with AI slop issues (utilities, scripts, etc.):".toList ∉
      linesAbove rules detection ++ shownLines (ruleItems detection.issues) ++
        shownLines (coreItems detection.issues) := by
    rw [List.mem_append, List.mem_append, not_or, not_or]
    exact ⟨⟨heading_notMem_above hheading rules hids,
      heading_notMem_ruleItems hheading (by decide) hids⟩,
      heading_notMem_coreItems hheading (by decide) _⟩
  rw [shownLines_items rules quiet hsome, ← List.append_assoc, ← List.append_assoc,
    shownLines_otherItems]
  split
  next hnone =>
    have hverdict : "\nTop OTHER files with AI slop issues (utilities, scripts, etc.):".toList ≠
        (verdictLine detection.score.verdict).toList := by
      cases detection.score.verdict <;> decide
    rw [List.nil_append, entriesUnder_of_notMem]
    · rcases hnone with hquiet | hothers
      · rw [if_pos hquiet]
      · rw [hothers, List.take_nil, List.map_nil, ite_self]
    · rw [List.mem_append, List.mem_singleton, not_or]
      exact ⟨hbefore, hverdict⟩
  next hshown =>
    rw [if_neg fun hquiet => hshown (.inl hquiet), List.cons_append]
    refine entriesUnder_append hbefore ?_ ?_
    · exact List.forall_mem_map.mpr fun file _ => fileEntry_indented _ file
    intro line hline
    obtain rfl : (verdictLine detection.score.verdict).toList = line := by simpa using hline
    exact verdictLine_not_indented _

end Lists

/-- The lists of a report are those of the rankings of rules and files: the first ten rules, the
first ten files of the application itself, or a note that there are none, and the first five other
files, which are left out of quiet reports. All are told with the numbers of their issues.

What stands for a rule or a file is its name with the emoji of the codes in it, which the colon
behind the name may end. A name without a colon is told as it is. -/
theorem report_lists_rankings {detection : Detection}
    (hids : ∀ issue ∈ detection.issues, '[' ∉ issue.ruleId.toList) (hsome : detection.issues ≠ [])
    (rules : Option RuleSet) (quiet : Bool) :
    let issues := detection.issues
    let lines := shownLines (items rules quiet detection)
    let ofRule := valueCount Issue.ruleId issues
    let ofFile := valueCount Issue.file issues
    let told (name : String) := Emoji.replace (name ++ ":").toList
    let ruleText (id : String) := "  ".toList ++ (told id ++ (s!" {ofRule id}").toList)
    let fileText (file : String) :=
      "  ".toList ++ (told file ++ (s!" {ofFile file} issues").toList)
    ∃ types files, IsRanking Issue.ruleId issues types ∧ IsRanking Issue.file issues files ∧
      ShowsFirst 10 types ofRule ruleText (entriesUnder "\nIssues by type:" lines) ∧
      (let core := files.filter (IsCore ·)
        let shown := entriesUnder "\nTop CORE APPLICATION files with AI slop issues:" lines
        if core = [] then shown = ["  No core application files found with issues".toList]
        else ShowsFirst 10 core ofFile fileText shown) ∧
      (let others := files.filter (¬ IsCore ·)
        let shown := entriesUnder
          "\nTop OTHER files with AI slop issues (utilities, scripts, etc.):" lines
        if quiet then shown = [] else ShowsFirst 5 others ofFile fileText shown) ∧
      ∀ name, ':' ∉ name.toList → told name = (name ++ ":").toList := by
  intro issues lines ofRule ofFile told ruleText fileText
  have htypes := isRanking_rankedValues Issue.ruleId issues
  have hfiles := isRanking_rankedValues Issue.file issues
  refine ⟨rankedValues Issue.ruleId issues, rankedValues Issue.file issues, htypes, hfiles,
    ?_, ?_, ?_, fun name hname => replace_name hname⟩
  · rw [show entriesUnder "\nIssues by type:" lines = _ from typeEntries_eq hids hsome rules quiet]
    exact showsFirst htypes.ordered 10 (typeEntry issues)
  · intro core shown
    rw [show shown = coreEntries issues from coreEntries_eq hids hsome rules quiet, coreEntries]
    split
    · rfl
    · exact showsFirst (hfiles.ordered.filter _) 10 (fileEntry issues)
  · intro others shown
    rw [show shown = _ from otherEntries_eq hids hsome rules quiet]
    split
    · rfl
    · exact showsFirst (hfiles.ordered.filter _) 5 (fileEntry issues)

end Shown

/-- Findings with ties among rules and files. -/
def tiedIssues : List Issue :=
  [("b", "src/x.ts"), ("a", "app\\y.ts"), ("a", "lib/z.ts"), ("b", "src/x.ts"),
    ("c", "app\\y.ts")].map fun (ruleId, file) => ⟨ruleId, file, 1, 1, "foo", "m", "low"⟩

theorem report_lists_rankings_tied :
    letI := Library.plain []
    (∀ issue ∈ (Detection.ofIssues tiedIssues 3).issues, '[' ∉ issue.ruleId.toList) ∧
      (Detection.ofIssues tiedIssues 3).issues ≠ [] ∧
      entriesUnder "\nIssues by type:"
        (shownLines (items none false (Detection.ofIssues tiedIssues 3))) =
        ["  b: 2".toList, "  a: 2".toList, "  c: 1".toList] ∧
      entriesUnder "\nTop CORE APPLICATION files with AI slop issues:"
        (shownLines (items none false (Detection.ofIssues tiedIssues 3))) =
        ["  app\\y.ts: 2 issues".toList, "  lib/z.ts: 1 issues".toList] ∧
      entriesUnder "\nTop OTHER files with AI slop issues (utilities, scripts, etc.):"
        (shownLines (items none false (Detection.ofIssues tiedIssues 3))) =
        ["  src/x.ts: 2 issues".toList] := by
  let := Library.plain []
  have hids : ∀ issue ∈ (Detection.ofIssues tiedIssues 3).issues, '[' ∉ issue.ruleId.toList := by
    decide +kernel
  have hsome : (Detection.ofIssues tiedIssues 3).issues ≠ [] := by decide +kernel
  obtain ⟨types, files, htypes, hfiles, hrules, hcore, hothers, -⟩ :=
    report_lists_rankings hids hsome none false
  obtain rfl : types = ["b", "a", "c"] :=
    htypes.unique (isRanking_of_perm (by decide +kernel) (by decide +kernel))
  obtain rfl : files = ["src/x.ts", "app\\y.ts", "lib/z.ts"] :=
    hfiles.unique (isRanking_of_perm (by decide +kernel) (by decide +kernel))
  refine ⟨hids, hsome, hrules.lines_eq.trans (by decide +kernel), ?_, ?_⟩
  · exact hcore.lines_eq.trans (by decide +kernel)
  · exact hothers.lines_eq.trans (by decide +kernel)

/-- A rule that goes by the code of an emoji is listed as the emoji. -/
theorem emoji_code_misnames_rule :
    letI := Library.plain [("smile", "😄")]
    let detection := Detection.ofIssues (lowIssues ":smile:" 1) 1
    (∀ issue ∈ detection.issues, '[' ∉ issue.ruleId.toList) ∧
      (detection.issues.map Issue.ruleId).eraseDups = [":smile:"] ∧
      entriesUnder "\nIssues by type:" (shownLines (items none false detection)) =
        ["  😄: 1".toList] := by
  let := Library.plain [("smile", "😄")]
  intro detection
  have hids : ∀ issue ∈ detection.issues, '[' ∉ issue.ruleId.toList := by decide +kernel
  have hsome : detection.issues ≠ [] := by decide +kernel
  have hranked : rankedValues Issue.ruleId detection.issues = [":smile:"] :=
    (isRanking_rankedValues _ _).unique
      (isRanking_of_perm (by decide +kernel) (by decide +kernel))
  refine ⟨hids, by decide +kernel, ?_⟩
  rw [typeEntries_eq hids hsome, hranked]
  decide +kernel

end SlopLint.Summary
