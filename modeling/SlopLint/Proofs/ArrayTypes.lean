import Mathlib.Combinatorics.Enumerative.DoubleCounting
import SlopLint.Proofs.FindingOrder
import SlopLint.Proofs.QuietScan
import SlopLint.Proofs.WordForms

/-!
# Arrays of any type

The argument of an array type is found twice: with the name in front of it, and by itself. The
exceptions make no difference between the two rules, so the second finding is always there, and it
ends where the first one does.
-/

namespace SlopLint

open Text
open Rule.Builtin (arrayAnyType genericAnyType)

/-- A finding tells the end of what another one tells, less something in front. -/
structure Issue.IsTailOf (tail whole : Issue) : Prop where
  file : tail.file = whole.file
  line : tail.line = whole.line
  suffix : tail.code.toList <:+ whole.code.toList
  shorter : tail.code ≠ whole.code
  stop : tail.column + tail.code.length = whole.column + whole.code.length

/-! ### The form of an array type -/

namespace Form

open Pattern (Node)
open Pattern.Plain
open Scope (plainMode)

/-- An array type with the argument `any`. -/
def anyArray : Form where
  words := ["Array"]
  rest tail after := ∃ gap argument, tail = gap ++ argument ∧ IsGap gap ∧
    anyArgument.Holds argument after

def anyArrayNode : Node :=
  .sequence (plainMode.word "Array".toList ++ (blanks :: mark '<' :: blanks ::
    (plainMode.word "any".toList ++ [blanks, mark '>'])))

lemma takes_anyArrayNode {before text after : List Char} :
    anyArrayNode.takes before text after ↔ anyArray.Holds text after := by
  unfold anyArrayNode
  constructor
  · intro h
    obtain ⟨_, rfl, hrest⟩ := takes_word_append.mp h
    obtain ⟨gap, argument, rfl, hgap, hargument⟩ := takes_blanks_cons.mp hrest
    exact ⟨"Array", List.mem_singleton.mpr rfl, _, rfl, gap, argument, rfl, hgap,
      takes_anyArgumentNode.mp hargument⟩
  · rintro ⟨_, hmem, _, rfl, gap, argument, rfl, hgap, hargument⟩
    obtain rfl := List.mem_singleton.mp hmem
    refine takes_word_append.mpr ⟨_, rfl, takes_blanks_cons.mpr ⟨gap, argument, rfl, hgap, ?_⟩⟩
    exact takes_anyArgumentNode.mpr hargument

/-- An array type ends with its argument. -/
lemma StandsAt.argument {line : Line} {start : Nat} {text : List Char}
    (h : anyArray.StandsAt line start text) : ∃ name argument, text = name ++ argument ∧
      name ≠ [] ∧ anyArgument.StandsAt line (start + name.length) argument := by
  obtain ⟨before, after, rfl, rfl, word, hword, _, rfl, gap, argument, rfl, -, hargument⟩ := h
  obtain rfl := List.mem_singleton.mp hword
  refine ⟨"Array".toList ++ gap, argument, (List.append_assoc _ _ _).symm, ?_,
    before ++ ("Array".toList ++ gap), after, ?_, List.length_append, hargument⟩
  · exact List.append_ne_nil_of_left_ne_nil (by decide) gap
  · simp only [List.append_assoc]

end Form

lemma arrayAnyType_expresses : arrayAnyType.Expresses .anyArray :=
  expresses_of_node (by decide +kernel) (by decide) Form.takes_anyArrayNode

lemma genericAnyType_expresses : genericAnyType.Expresses .anyArgument :=
  expresses_of_node (by decide +kernel) (by decide) Form.takes_anyArgumentNode

lemma arrayAnyType_mem : arrayAnyType ∈ Rule.builtin :=
  List.mem_of_getElem? (show Rule.builtin[17]? = some arrayAnyType from rfl)

lemma genericAnyType_mem : genericAnyType ∈ Rule.builtin :=
  List.mem_of_getElem? (show Rule.builtin[18]? = some genericAnyType from rfl)

/-! ### Matches on a line -/

section Matches

variable {file : String} {number : Int} {line : Line} {rule : Rule} {found found' : Match}

lemma line_of_mem_ruleMatches (h : found ∈ Scan.ruleMatches file number line rule) :
    found.line = number ∧ found.file = file := by
  obtain ⟨_, _, rfl⟩ := List.mem_map.mp h
  exact ⟨rfl, rfl⟩

/-- Matches of a rule that end at one place are the same. -/
lemma eq_of_mem_ruleMatches_of_stop (h : found ∈ Scan.ruleMatches file number line rule)
    (h' : found' ∈ Scan.ruleMatches file number line rule)
    (hstop : found.column + found.text.length = found'.column + found'.text.length) :
    found = found' := by
  have hlength : ∀ a ∈ Scan.ruleMatches file number line rule, a.text.length ≠ 0 :=
    fun a ha => mt String.length_eq_zero_iff.mp (eq_of_mem_ruleMatches ha).1
  obtain ⟨i, hi, rfl⟩ := List.getElem_of_mem h
  obtain ⟨j, hj, rfl⟩ := List.getElem_of_mem h'
  have hapart := List.pairwise_iff_getElem.mp (pairwise_ruleMatches file number line rule)
  have hlengthi := hlength _ (List.getElem_mem hi)
  have hlengthj := hlength _ (List.getElem_mem hj)
  rcases Nat.lt_trichotomy i j with hij | rfl | hji
  · have hle := hapart i j hi hj hij
    omega
  · rfl
  · have hle := hapart j i hj hi hji
    omega

/-- Where there is a match of the rule about arrays, there is one of its argument. -/
lemma exists_argument_of_mem_ruleMatches
    (h : found ∈ Scan.ruleMatches file number line arrayAnyType) :
    ∃ argument ∈ Scan.ruleMatches file number line genericAnyType,
      argument.text.toList <:+ found.text.toList ∧ argument.text ≠ found.text ∧
      argument.column + argument.text.length = found.column + found.text.length := by
  obtain ⟨occurrence, hoccurrence, rfl⟩ := List.mem_map.mp h
  obtain ⟨name, argument, htext, hname, hstands⟩ :=
    (standsAt_of_mem_occurrences arrayAnyType_expresses hoccurrence).argument
  have hpos := List.length_pos_iff.mpr hname
  refine ⟨_, (mem_ruleMatches_iff genericAnyType_expresses Form.separated_anyArgument).mpr
    ⟨_, argument, hstands, rfl⟩, ?_, ?_, ?_⟩
  · dsimp only
    rw [String.toList_ofList, String.toList_ofList, htext]
    exact List.suffix_append name argument
  · dsimp only
    rw [htext, ne_eq, String.ofList_inj]
    intro heq
    have hlength := congrArg List.length heq
    rw [List.length_append] at hlength
    omega
  · dsimp only
    rw [String.length_ofList, String.length_ofList, htext, List.length_append]
    omega

/-- No exception tells the two rules apart, and none asks for the column. -/
lemma counts_argument {kinds : FileKinds} {quiet : Bool} {lines : List Line}
    (h : found ∈ Scan.ruleMatches file number line arrayAnyType)
    (h' : found' ∈ Scan.ruleMatches file number line genericAnyType)
    (hcounts : Scan.counts arrayAnyType kinds quiet lines found = true) :
    Scan.counts genericAnyType kinds quiet lines found' = true := by
  obtain ⟨_, _, rfl⟩ := List.mem_map.mp h
  obtain ⟨_, _, rfl⟩ := List.mem_map.mp h'
  have haccepted := counts_eq_true_iff.mp hcounts
  have hpermissive : Rule.isPermissive arrayAnyType.id = true := by decide
  exact counts_eq_true_iff.mpr {
    tests := nofun
    mocks := nofun
    declarations := fun _ => haccepted.declarations hpermissive
    unacknowledged := fun _ => haccepted.unacknowledged (.inl hpermissive)
    unexcused := rfl
    unhandled := nofun
    loud := fun hquiet _ => haccepted.loud hquiet (by decide) }

end Matches

/-! ### Findings of a built-in rule -/

section Built

variable {custom : List CustomRule} {overrides : List (String × Severity)} {set : RuleSet}

lemma ruleId_ne_of_mem_builtin {plain : Rule} (hplain : plain ∈ Rule.builtin) :
    Nesting.ruleId ≠ plain.id := by
  have hfresh : Nesting.ruleId ∉ RuleSet.default.ids := by decide +kernel
  exact fun hid => hfresh (hid ▸ List.mem_map_of_mem hplain)

/-- The findings with the id of a built-in rule come from this rule. -/
lemma mem_fileIssues_of_builtin (hbuild : RuleSet.build custom overrides = .ok set) {plain : Rule}
    (hplain : plain ∈ Rule.builtin) {quiet : Bool} {file content : String} {issue : Issue} :
    issue ∈ Scan.fileIssues set quiet file content ∧ issue.ruleId = plain.id ↔
      ∃ k line, (Text.lines content.toList)[k]? = some line ∧
        ∃ found ∈ Scan.ruleMatches file (k + 1 : Nat) line plain,
          Scan.counts plain (.ofPath file) quiet (Text.lines content.toList) found = true ∧
          Scan.toIssue (RuleSet.overrideRule overrides plain) found = issue := by
  have hrule : RuleSet.overrideRule overrides plain ∈ set.rules :=
    (mem_rules_of_build hbuild).mpr ⟨plain, .inl hplain, rfl⟩
  constructor
  · rintro ⟨hissue, hid⟩
    obtain ⟨k, origin, horigin, hat⟩ := mem_fileIssues.mp hissue
    obtain ⟨line, hline, hfound⟩ := mem_findingsAt.mp hat
    have horiginId := (ruleId_of_mem_findings hfound).symm.trans hid
    cases origin with
    | rule rule =>
      have hmem := rule_mem_origins.mp horigin
      obtain rfl := List.inj_on_of_nodup_map (nodup_ids_of_build hbuild) hmem hrule horiginId
      exact ⟨k, line, hline, mem_ruleIssues.mp hfound⟩
    | nesting => exact absurd horiginId (ruleId_ne_of_mem_builtin hplain)
  · rintro ⟨k, line, hline, hfound⟩
    refine ⟨mem_fileIssues.mpr ⟨k, _, rule_mem_origins.mpr hrule,
      mem_findingsAt.mpr ⟨line, hline, mem_ruleIssues.mpr hfound⟩⟩, ?_⟩
    obtain ⟨found, -, -, rfl⟩ := hfound
    rfl

/-- Findings of one built-in rule that end at one place of a file are the same. -/
lemma eq_of_mem_fileIssues_of_stop (hbuild : RuleSet.build custom overrides = .ok set)
    {plain : Rule} (hplain : plain ∈ Rule.builtin) {quiet : Bool} {file content : String}
    {a b : Issue} (ha : a ∈ Scan.fileIssues set quiet file content) (hida : a.ruleId = plain.id)
    (hb : b ∈ Scan.fileIssues set quiet file content) (hidb : b.ruleId = plain.id)
    (hline : a.line = b.line) (hstop : a.column + a.code.length = b.column + b.code.length) :
    a = b := by
  obtain ⟨k, line, hk, found, hfound, -, rfl⟩ :=
    (mem_fileIssues_of_builtin hbuild hplain).mp ⟨ha, hida⟩
  obtain ⟨l, line', hl, found', hfound', -, rfl⟩ :=
    (mem_fileIssues_of_builtin hbuild hplain).mp ⟨hb, hidb⟩
  obtain ⟨hnumber, -⟩ := line_of_mem_ruleMatches hfound
  obtain ⟨hnumber', -⟩ := line_of_mem_ruleMatches hfound'
  obtain rfl : k = l := by
    have hnumbers : found.line = found'.line := hline
    omega
  rw [hk] at hl
  obtain rfl := Option.some.inj hl
  rw [eq_of_mem_ruleMatches_of_stop hfound hfound' hstop]

/-- A finding about an array type has one about its argument beside it. -/
lemma exists_argument_of_mem_fileIssues (hbuild : RuleSet.build custom overrides = .ok set)
    {quiet : Bool} {file content : String} {issue : Issue}
    (hissue : issue ∈ Scan.fileIssues set quiet file content)
    (hid : issue.ruleId = arrayAnyType.id) :
    ∃ argument ∈ Scan.fileIssues set quiet file content,
      argument.ruleId = genericAnyType.id ∧ argument.IsTailOf issue := by
  obtain ⟨k, line, hk, found, hfound, hcounts, rfl⟩ :=
    (mem_fileIssues_of_builtin hbuild arrayAnyType_mem).mp ⟨hissue, hid⟩
  obtain ⟨argument, hargument, hsuffix, hshorter, hstop⟩ :=
    exists_argument_of_mem_ruleMatches hfound
  obtain ⟨hnumber, hfile⟩ := line_of_mem_ruleMatches hfound
  obtain ⟨hnumber', hfile'⟩ := line_of_mem_ruleMatches hargument
  obtain ⟨hmem, hargumentId⟩ := (mem_fileIssues_of_builtin hbuild genericAnyType_mem).mpr
    ⟨k, line, hk, argument, hargument, counts_argument hfound hargument hcounts, rfl⟩
  exact ⟨_, hmem, hargumentId, hfile'.trans hfile.symm, hnumber'.trans hnumber.symm, hsuffix,
    hshorter, hstop⟩

end Built

/-- Whatever the settings and the file, every finding about an array type has exactly one finding
about its argument that tells its end, and no two share theirs, so there are at least as many
findings about arguments. -/
theorem array_types_found_twice {custom : List CustomRule} {overrides : List (String × Severity)}
    {set : RuleSet} (hbuild : RuleSet.build custom overrides = .ok set) (quiet : Bool)
    (file content : String) :
    let issues := Scan.fileIssues set quiet file content
    (∀ issue ∈ issues, issue.ruleId = arrayAnyType.id →
      ∃! argument, argument ∈ issues ∧ argument.ruleId = genericAnyType.id ∧
        argument.IsTailOf issue) ∧
    (∀ issue ∈ issues, issue.ruleId = arrayAnyType.id →
      ∀ other ∈ issues, other.ruleId = arrayAnyType.id → ∀ argument : Issue,
        argument.IsTailOf issue → argument.IsTailOf other → issue = other) ∧
    issues.countP (·.ruleId == arrayAnyType.id) ≤
      issues.countP (·.ruleId == genericAnyType.id) := by
  intro issues
  have hone : ∀ issue ∈ issues, issue.ruleId = arrayAnyType.id →
      ∃ argument ∈ issues, argument.ruleId = genericAnyType.id ∧ argument.IsTailOf issue :=
    fun issue hissue hid => exists_argument_of_mem_fileIssues hbuild hissue hid
  have hown : ∀ issue ∈ issues, issue.ruleId = arrayAnyType.id →
      ∀ other ∈ issues, other.ruleId = arrayAnyType.id → ∀ argument : Issue,
        argument.IsTailOf issue → argument.IsTailOf other → issue = other := by
    intro issue hissue hid other hother hotherId argument htail htail'
    exact eq_of_mem_fileIssues_of_stop hbuild arrayAnyType_mem hissue hid hother hotherId
      (htail.line.symm.trans htail'.line) (htail.stop.symm.trans htail'.stop)
  refine ⟨?_, hown, ?_⟩
  · intro issue hissue hid
    obtain ⟨argument, hargument, hargumentId, htail⟩ := hone issue hissue hid
    refine ⟨argument, ⟨hargument, hargumentId, htail⟩, ?_⟩
    rintro other ⟨hother, hotherId, htail'⟩
    exact eq_of_mem_fileIssues_of_stop hbuild genericAnyType_mem hother hotherId hargument
      hargumentId (htail'.line.trans htail.line.symm) (htail'.stop.trans htail.stop.symm)
  · -- findings are told once, so their number is that of the set they make
    have hnodup := nodup_fileIssues hbuild quiet file content
    rw [List.countP_eq_length_filter, List.countP_eq_length_filter,
      ← List.toFinset_card_of_nodup (hnodup.filter _),
      ← List.toFinset_card_of_nodup (hnodup.filter _)]
    refine Finset.card_le_card_of_forall_subsingleton
      (fun issue argument => argument.IsTailOf issue) ?_ ?_
    · intro issue hissue
      obtain ⟨hissue, hid⟩ := List.mem_filter.mp (List.mem_toFinset.mp hissue)
      obtain ⟨argument, hargument, hargumentId, htail⟩ := hone issue hissue (beq_iff_eq.mp hid)
      exact ⟨argument, List.mem_toFinset.mpr
        (List.mem_filter.mpr ⟨hargument, beq_iff_eq.mpr hargumentId⟩), htail⟩
    · rintro argument - issue ⟨hissue, htail⟩ other ⟨hother, htail'⟩
      obtain ⟨hissue, hid⟩ := List.mem_filter.mp (List.mem_toFinset.mp hissue)
      obtain ⟨hother, hotherId⟩ := List.mem_filter.mp (List.mem_toFinset.mp hother)
      exact hown issue hissue (beq_iff_eq.mp hid) other hother (beq_iff_eq.mp hotherId) argument
        htail htail'

/-- An argument stands in front of the array type, which has blanks and is acknowledged too late. -/
theorem array_types_found_twice_blanks :
    ∃ set, RuleSet.build [elseRule] [(genericAnyType.id, .low)] = .ok set ∧
      ∃ issue ∈ Scan.fileIssues set true "a.ts" "f<any>(Array < any >)\n// @ts-ignore",
        issue.ruleId = arrayAnyType.id ∧ issue.code = "Array < any >" ∧
        ∃! argument,
          argument ∈ Scan.fileIssues set true "a.ts" "f<any>(Array < any >)\n// @ts-ignore" ∧
          argument.ruleId = genericAnyType.id ∧ argument.IsTailOf issue := by
  have hbuild := build_elseRule [(genericAnyType.id, .low)]
  have hline : (Text.lines "f<any>(Array < any >)\n// @ts-ignore".toList)[0]? =
      some "f<any>(Array < any >)".toList := by decide
  have hfound : ⟨"a.ts", 1, 8, "Array < any >", arrayAnyType.id⟩ ∈
      Scan.ruleMatches "a.ts" 1 "f<any>(Array < any >)".toList arrayAnyType := by decide +kernel
  have hcounts : Scan.counts arrayAnyType (.ofPath "a.ts") true
      (Text.lines "f<any>(Array < any >)\n// @ts-ignore".toList)
      ⟨"a.ts", 1, 8, "Array < any >", arrayAnyType.id⟩ = true := by decide +kernel
  obtain ⟨hissue, hid⟩ := (mem_fileIssues_of_builtin hbuild arrayAnyType_mem).mpr
    ⟨0, _, hline, _, hfound, hcounts, rfl⟩
  exact ⟨_, hbuild, _, hissue, hid, rfl,
    (array_types_found_twice hbuild true "a.ts" _).1 _ hissue hid⟩

end SlopLint
