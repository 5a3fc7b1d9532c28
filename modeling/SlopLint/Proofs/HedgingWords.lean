import SlopLint.Proofs.AsciiTexts
import SlopLint.Proofs.JoinedTexts
import SlopLint.Proofs.OccurrencePlaces
import SlopLint.Proofs.PlainForms
import SlopLint.Proofs.QuietScan
import SlopLint.Proofs.StrippedTexts

/-!
# Hedges that are always excused

One of the hedges that the rule about hedging looks for is also what excuses a comment. On a line
with this hedge no match of the rule counts, and on the other lines the hedge takes nothing, so the
rule finds the same without it.
-/

namespace SlopLint

open Text
open Rule.Builtin (hedgingUncertaintyComment anyCase)

/-- The rule with another pattern. -/
def Rule.withPattern (rule : Rule) (pattern : Pattern) : Rule :=
  { rule with pattern := pattern }

/-- The rule about hedging without the hedge that excuses a comment. -/
def hedgingWithoutExcuse : Rule :=
  hedgingUncertaintyComment.withPattern (
    .known anyCase (
      "//.*\\b(hopefully|probably|might work|try this|i think|seems to|attempting to|looks like|" ++
        "appears to)\\b"))

/-- The set with a rule in place of the one that has its id. -/
def RuleSet.replace (set : RuleSet) (rule : Rule) : RuleSet :=
  ⟨set.rules.map fun other => if other.id = rule.id then rule else other⟩

lemma counts_withPattern (rule : Rule) (pattern : Pattern) :
    Scan.counts (rule.withPattern pattern) = Scan.counts rule := rfl

lemma toIssue_withPattern (rule : Rule) (pattern : Pattern) :
    Scan.toIssue (rule.withPattern pattern) = Scan.toIssue rule := rfl

/-! ### Stripped lines in lower case -/

namespace Text

section Stripped

variable {text line : List Char}

lemma isBlank_lower {c : Char} (hc : c.toNat < 128) : isBlank (lower c) = isBlank c :=
  forall_ascii (p := fun c => isBlank (lower c) = isBlank c) (by decide) hc

lemma stripLeft_map_lower (hline : IsAscii line) :
    stripLeft (line.map lower) = (stripLeft line).map lower := by
  induction line with
  | nil => rfl
  | cons c line ih =>
    obtain ⟨hc, hline⟩ := List.forall_mem_cons.mp hline
    unfold stripLeft at ih ⊢
    rw [List.map_cons, List.dropWhile_cons, List.dropWhile_cons, isBlank_lower hc, ih hline]
    split <;> rfl

lemma lowerText_strip (hline : IsAscii line) : lowerText (strip line) = strip (line.map lower) := by
  have hleft : IsAscii (stripLeft line) :=
    fun c hc => hline c ((List.dropWhile_suffix _).mem hc)
  have hright : IsAscii (stripLeft (stripLeft line).reverse) :=
    fun c hc => hleft c (List.mem_reverse.mp ((List.dropWhile_suffix _).mem hc))
  have hstrip : IsAscii (strip line) := fun c hc => hright c (List.mem_reverse.mp hc)
  have hreverse : IsAscii (stripLeft line).reverse := fun c hc => hleft c (List.mem_reverse.mp hc)
  rw [lowerText_of_isAscii hstrip, strip, strip, stripRight, stripRight, stripLeft_map_lower hline,
    ← List.map_reverse, stripLeft_map_lower hreverse, List.map_reverse]

/-- A literal in lower case whose ends are no blanks. -/
structure IsLowLiteral (needle : String) : Prop where
  ascii : IsAscii needle.toList
  low : lowerText needle.toList = needle.toList
  head : ∃ c, needle.toList.head? = some c ∧ isBlank c = false
  last : ∃ c, needle.toList.getLast? = some c ∧ isBlank c = false

/-- Where a literal is spelled on a line, it is read on the stripped line in lower case. -/
lemma has_of_spells {needle : String} (hneedle : IsLowLiteral needle) (hline : IsAscii line)
    (hpart : text <:+: line) (hspells : anyCaseMode.Spells needle.toList text) :
    has (lowerText (strip line)) needle = true := by
  have htext : IsAscii text := fun c hc => hline c (hpart.mem hc)
  have hlower := (spells_iff_of_isAscii hneedle.ascii htext).mp hspells
  rw [lowerText_of_isAscii htext, hneedle.low] at hlower
  rw [has, occursIn_iff, lowerText_strip hline]
  exact infix_strip hneedle.head hneedle.last (hlower ▸ hpart.map lower)

end Stripped

lemma mem_of_mem_splitOnChar {separator c : Char} {piece text : List Char}
    (hpiece : piece ∈ splitOnChar separator text) (hc : c ∈ piece) : c ∈ text := by
  induction text generalizing piece with
  | nil =>
    obtain rfl := List.mem_singleton.mp hpiece
    exact hc
  | cons d text ih =>
    unfold splitOnChar at hpiece
    split at hpiece
    · rcases List.mem_cons.mp hpiece with rfl | hpiece
      · cases hc
      · exact List.mem_cons_of_mem _ (ih hpiece hc)
    · split at hpiece
      · obtain rfl := List.mem_singleton.mp hpiece
        rw [List.mem_singleton.mp hc]
        exact List.mem_cons_self
      · next first pieces hsplit =>
        rcases List.mem_cons.mp hpiece with rfl | hpiece
        · rcases List.mem_cons.mp hc with rfl | hc
          · exact List.mem_cons_self
          · exact List.mem_cons_of_mem _ (ih (hsplit ▸ List.mem_cons_self) hc)
        · exact List.mem_cons_of_mem _ (ih (hsplit ▸ List.mem_cons_of_mem _ hpiece) hc)

/-- The characters of the lines of a text are its own. -/
lemma isAscii_of_mem_lines {content : List Char} {line : Line} (hcontent : IsAscii content)
    (hline : line ∈ lines content) : IsAscii line := by
  obtain ⟨piece, hpiece, rfl⟩ := List.mem_map.mp hline
  intro c hc
  refine hcontent c (mem_of_mem_splitOnChar hpiece ?_)
  unfold dropTrailingReturn at hc
  split at hc
  · exact List.mem_of_mem_dropLast hc
  · exact hc

end Text

/-! ### The pattern with and without a hedge -/

namespace Pattern

open Plain (boundary)

/-- The pattern for comments with one of some hedges. -/
def hedgeNode (hedges : List String) : Node :=
  .sequence (anyCaseMode.word "//".toList ++
    ([.loop .greedy 0 none (.char anyCaseMode .notNewline), boundary] ++
      [.capture 1 (.choice (hedges.map fun hedge => .sequence (anyCaseMode.word hedge.toList))),
        boundary]))

section Places

variable {text : List Char} {s : Cursor}

/-- Sequences end at the same places of a text if they do so behind a common start. -/
lemma ends_sequence_congr {nodes nodes' : List Node} (front : List Node)
    (h : ∀ s, s.IsIn text → (Node.sequence nodes).ends s = (Node.sequence nodes').ends s)
    (hs : s.IsIn text) :
    (Node.sequence (front ++ nodes)).ends s = (Node.sequence (front ++ nodes')).ends s := by
  induction front generalizing s with
  | nil => exact h s hs
  | cons node front ih =>
    rw [List.cons_append, List.cons_append, ends_sequence_cons, ends_sequence_cons]
    exact List.flatMap_congr fun t ht => ih (ends_keep (isIn_lasting text) node s hs t ht)

/-- Where a hedge is nowhere taken, it can be left out. -/
lemma ends_hedgeNode_cons {hedge : String} {hedges : List String} (hothers : hedges ≠ [])
    (hnone : ∀ s, s.IsIn text → (Node.sequence (anyCaseMode.word hedge.toList)).ends s = [])
    (hs : s.IsIn text) : (hedgeNode (hedge :: hedges)).ends s = (hedgeNode hedges).ends s := by
  refine ends_sequence_congr _ (fun s hs => ends_sequence_congr _ (fun s hs => ?_) hs) hs
  obtain ⟨other, others, rfl⟩ := List.exists_cons_of_ne_nil hothers
  have hchoice : ∀ s, s.IsIn text →
      (Node.choice (List.map (fun hedge => .sequence (anyCaseMode.word hedge.toList))
        (hedge :: other :: others))).ends s =
      (Node.choice (List.map (fun hedge => .sequence (anyCaseMode.word hedge.toList))
        (other :: others))).ends s := by
    intro s hs
    change (Node.sequence (anyCaseMode.word hedge.toList)).ends s ++ _ = _
    rw [hnone s hs]
    rfl
  rw [ends_sequence_cons, ends_sequence_cons]
  simp only [Node.ends, hchoice s hs]

lemma matchAt_congr {node node' : Node} {moving : Bool} (h : node.ends s = node'.ends s) :
    matchAt node moving s = matchAt node' moving s := by
  unfold matchAt
  rw [run_goesThrough_ends, run_goesThrough_ends, h]

end Places

end Pattern

/-! ### Lines with the hedge that excuses -/

/-- The hedge that the rule about hedging looks for and that excuses a comment. -/
def excusingHedge : String := "should work"

/-- The other hedges. -/
def otherHedges : List String :=
  ["hopefully", "probably", "might work", "try this", "i think", "seems to", "attempting to",
    "looks like", "appears to"]

lemma node_hedging :
    hedgingUncertaintyComment.pattern.node = Pattern.hedgeNode (excusingHedge :: otherHedges) := by
  decide +kernel

lemma isRegular_hedging : hedgingUncertaintyComment.pattern.node.isRegular = true := by
  rw [node_hedging]
  decide

lemma node_hedgingWithoutExcuse :
    hedgingWithoutExcuse.pattern.node = Pattern.hedgeNode otherHedges := by
  decide +kernel

lemma isLowLiteral_excusingHedge : IsLowLiteral excusingHedge :=
  ⟨List.forall_iff_forall_mem.mp (by decide), by decide, ⟨'s', rfl, by decide⟩,
    ⟨'k', by decide, by decide⟩⟩

lemma isLowLiteral_slashes : IsLowLiteral "//" :=
  ⟨List.forall_iff_forall_mem.mp (by decide), by decide, ⟨'/', rfl, by decide⟩,
    ⟨'/', by decide, by decide⟩⟩

lemma isRegular_hedgingWithoutExcuse : hedgingWithoutExcuse.pattern.node.isRegular = true := by
  rw [node_hedgingWithoutExcuse]
  decide

section Hedging

variable {line : Line} (hline : IsAscii line)
include hline

/-- On a line without the hedge, it is nowhere taken. -/
lemma ends_excusingHedge (hnone : has (lowerText (strip line)) excusingHedge = false)
    {s : Pattern.Cursor} (hs : s.IsIn line) :
    (Pattern.Node.sequence (anyCaseMode.word excusingHedge.toList)).ends s = [] := by
  have hplace := hs.eq_between hs.parts.symm hs.left_eq
  rw [List.reverse_reverse] at hplace
  rw [hplace, Pattern.ends_eq_nil_iff (by decide)]
  intro text after hafter htakes
  have hpart : text <:+: line :=
    ⟨s.before.reverse, after, by rw [List.append_assoc, ← hafter, hs.parts]⟩
  rw [has_of_spells isLowLiteral_excusingHedge hline hpart (Pattern.takes_word.mp htakes)] at hnone
  cases hnone

/-- There the rule finds the same without it. -/
lemma ruleMatches_hedging (hnone : has (lowerText (strip line)) excusingHedge = false)
    (file : String) (number : Int) :
    Scan.ruleMatches file number line hedgingUncertaintyComment =
      Scan.ruleMatches file number line hedgingWithoutExcuse := by
  have hsame : ∀ read unread, line = read ++ unread →
      hedgingUncertaintyComment.pattern.taken? read unread =
        hedgingWithoutExcuse.pattern.taken? read unread := by
    rintro read unread rfl
    have hplace := Pattern.isIn_between read.reverse unread []
    rw [List.reverse_reverse] at hplace
    have hends := Pattern.ends_hedgeNode_cons (by decide : otherHedges ≠ [])
      (fun s hs => ends_excusingHedge hline hnone hs) hplace
    unfold Pattern.taken?
    rw [node_hedging, node_hedgingWithoutExcuse, Pattern.matchAt_congr hends]
  unfold Scan.ruleMatches
  rw [((Pattern.occurrences_scans hedgingUncertaintyComment.pattern line).congr hsame
    rfl).occurrences_eq]
  rfl

/-- A match starts with the slashes of a comment. -/
lemma has_slashes {rule : Rule} {hedges : List String}
    (hnode : rule.pattern.node = Pattern.hedgeNode hedges)
    (hregular : rule.pattern.node.isRegular = true) {file : String} {number : Int} {found : Match}
    (hfound : found ∈ Scan.ruleMatches file number line rule) :
    has (lowerText (strip line)) "//" = true := by
  obtain ⟨occurrence, hoccurrence, rfl⟩ := List.mem_map.mp hfound
  obtain ⟨-, before, after, hsplit, -, htakes⟩ :=
    Pattern.takes_of_mem_occurrences hregular hoccurrence
  rw [hnode] at htakes
  obtain ⟨slashes, rest, htext, hspells, -⟩ := Pattern.takes_word_append.mp htakes
  have hpart : slashes <:+: line :=
    ⟨before, rest ++ after, by rw [hsplit, htext]; simp only [List.append_assoc]⟩
  exact has_of_spells isLowLiteral_slashes hline hpart hspells

/-- On a line with the hedge, no match counts. -/
lemma ruleIssues_of_excused (rule : Rule) {hedges : List String}
    (hid : rule.id = hedgingUncertaintyComment.id)
    (hnode : rule.pattern.node = Pattern.hedgeNode hedges)
    (hregular : rule.pattern.node.isRegular = true) {lines : List Line} {k : Nat}
    (hat : lines[k]? = some line) (hexcuse : has (lowerText (strip line)) excusingHedge = true)
    (kinds : FileKinds) (quiet : Bool) (file : String) :
    Scan.ruleIssues kinds quiet file lines (k + 1 : Nat) line rule = [] := by
  apply List.eq_nil_iff_forall_not_mem.mpr
  intro issue hissue
  obtain ⟨found, hfound, hcounts, -⟩ := mem_ruleIssues.mp hissue
  have hslashes := has_slashes hline hnode hregular hfound
  obtain ⟨occurrence, -, rfl⟩ := List.mem_map.mp hfound
  have hunexcused := (counts_eq_true_iff.mp hcounts).unexcused
  have hindex : ((k + 1 : Nat) : Int) - 1 = k := by omega
  -- the exception asks for a sign of a comment too, which every match brings along
  have hexcused : Site.isExcused ⟨file, lines, k, occurrence.start + 1⟩
      hedgingUncertaintyComment.id = .ok true := by
    change Site.excusesHedge _ = _
    unfold Site.excusesHedge Site.line
    dsimp only
    split
    · rfl
    · have hcomment : hasAny (lowerText (strip line)) ["//", "/*", "*/"] = true := by
        simp [hasAny, hslashes]
      have hboth : (has (lowerText (strip line)) "should work" &&
          hasAny (lowerText (strip line)) ["//", "/*", "*/"]) = true := by
        rw [hcomment, Bool.and_true]
        exact hexcuse
      rw [Scope.lineAt_natCast, hat]
      exact congrArg Except.ok hboth
  unfold Scan.site at hunexcused
  dsimp only at hunexcused
  rw [hindex, show rule.subject.id = _ from hid, hexcused] at hunexcused
  cases hunexcused

/-- The rule has the same findings with and without the hedge. -/
lemma ruleIssues_hedging {lines : List Line} {k : Nat} (hat : lines[k]? = some line)
    (kinds : FileKinds) (quiet : Bool) (file : String) :
    Scan.ruleIssues kinds quiet file lines (k + 1 : Nat) line hedgingUncertaintyComment =
      Scan.ruleIssues kinds quiet file lines (k + 1 : Nat) line hedgingWithoutExcuse := by
  cases hexcuse : has (lowerText (strip line)) excusingHedge with
  | true =>
    rw [ruleIssues_of_excused hline hedgingUncertaintyComment rfl node_hedging isRegular_hedging
        hat hexcuse,
      ruleIssues_of_excused hline hedgingWithoutExcuse rfl node_hedgingWithoutExcuse
        isRegular_hedgingWithoutExcuse hat hexcuse]
  | false =>
    unfold Scan.ruleIssues
    rw [ruleMatches_hedging hline hexcuse, hedgingWithoutExcuse, counts_withPattern,
      toIssue_withPattern]

end Hedging

/-- Whatever the file and the mode, where a content is of ASCII characters the rule set finds the
same in it without the hedge that excuses comments. -/
theorem excusing_hedge_is_dead (quiet : Bool) (file : String) {content : String}
    (hcontent : IsAscii content.toList) :
    Scan.fileIssues (RuleSet.default.replace hedgingWithoutExcuse) quiet file content =
      Scan.fileIssues RuleSet.default quiet file content := by
  have hlineIssues : ∀ lines : List Line, ∀ k line, lines[k]? = some line → IsAscii line →
      Scan.lineIssues (RuleSet.default.replace hedgingWithoutExcuse) quiet file lines (k + 1 : Nat)
        line = Scan.lineIssues RuleSet.default quiet file lines (k + 1 : Nat) line := by
    intro lines k line hat hline
    have hhedging : hedgingUncertaintyComment ∈ RuleSet.default.rules :=
      List.mem_of_getElem? (show Rule.builtin[8]? = some hedgingUncertaintyComment from rfl)
    unfold Scan.lineIssues RuleSet.replace
    rw [List.flatMap_map]
    refine congrArg (· ++ Nesting.issues file (k + 1 : Nat) line) ?_
    refine List.flatMap_congr fun rule hrule => ?_
    split
    · next hid =>
      obtain rfl := List.inj_on_of_nodup_map nodup_builtin_ids hrule hhedging hid
      exact (ruleIssues_hedging hline hat _ quiet file).symm
    · rfl
  unfold Scan.fileIssues
  refine List.flatMap_congr fun (line, k) hmem => ?_
  have hat := List.mem_zipIdx_iff_getElem?.mp hmem
  exact hlineIssues _ k line hat (isAscii_of_mem_lines hcontent (List.mem_of_getElem? hat))

/-- The hedge stands on the first line beside another one, which is alone on the second. -/
theorem excusing_hedge_is_dead_beside :
    IsAscii "f(); // SHOULD WORK, I think\n// I think".toList ∧
    Scan.fileIssues (RuleSet.default.replace hedgingWithoutExcuse) true "a.ts"
        "f(); // SHOULD WORK, I think\n// I think" =
      Scan.fileIssues RuleSet.default true "a.ts" "f(); // SHOULD WORK, I think\n// I think" := by
  have hcontent : IsAscii "f(); // SHOULD WORK, I think\n// I think".toList :=
    List.forall_iff_forall_mem.mp (by decide)
  exact ⟨hcontent, excusing_hedge_is_dead true "a.ts" hcontent⟩

end SlopLint
