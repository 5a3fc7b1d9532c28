import Mathlib.Tactic.Lemma
import SlopLint.Proofs.LeftmostSearch
import SlopLint.Proofs.ScopeWindow
import SlopLint.Scan

/-!
# Where occurrences are

A match takes the characters between its start and its end, and a search passes over no place at
which the pattern takes something. So the matches of a rule are pieces of the line that stand at
their columns and do not overlap, and they cover every place at which there is something to take.
-/

namespace SlopLint.Pattern

/-! ### The occurrences in a text -/

section Text

variable {pattern : Pattern} {text : List Char}

lemma occurrences_sound {occurrence : Occurrence} (h : occurrence ∈ pattern.occurrences text) :
    ∃ before after, text = before ++ occurrence.text ++ after ∧
      before.length = occurrence.start ∧
      pattern.taken? before (occurrence.text ++ after) = some occurrence.text := by
  obtain ⟨before, after, htext, hstart, htaken⟩ := (occurrences_scans pattern text).sound h
  exact ⟨before, after, by rw [List.append_assoc, htext], hstart.symm, htaken⟩

lemma occurrences_cover {before after : List Char}
    (h : (pattern.taken? before after).isSome) :
    ∃ occurrence ∈ pattern.occurrences (before ++ after),
      occurrence.start ≤ before.length ∧
      before.length < occurrence.start + occurrence.text.length :=
  (occurrences_scans pattern (before ++ after)).covers rfl h

end Text

/-! ### Regular patterns -/

section Regular

variable {pattern : Pattern} (hregular : pattern.node.isRegular = true)
include hregular

/-- An occurrence of a regular pattern is a text of its language. -/
lemma takes_of_mem_occurrences {text : List Char} {occurrence : Occurrence}
    (h : occurrence ∈ pattern.occurrences text) :
    occurrence.text ≠ [] ∧ ∃ before after, text = before ++ occurrence.text ++ after ∧
      before.length = occurrence.start ∧
      pattern.node.takes before.reverse occurrence.text after := by
  obtain ⟨before, _, htext, hstart, htaken⟩ := occurrences_sound h
  obtain ⟨hfull, after, heq, htakes⟩ := takes_of_taken? hregular htaken
  obtain rfl := List.append_cancel_left heq
  exact ⟨hfull, before, _, htext, hstart, htakes⟩

/-- A text of the language starts inside of an occurrence. -/
lemma occurrences_cover_of_takes {before found after : List Char} (hfull : found ≠ [])
    (h : pattern.node.takes before.reverse found after) :
    ∃ occurrence ∈ pattern.occurrences (before ++ (found ++ after)),
      occurrence.start ≤ before.length ∧
      before.length < occurrence.start + occurrence.text.length :=
  occurrences_cover (taken?_isSome_of_takes hregular hfull h)

end Regular

end SlopLint.Pattern

namespace SlopLint

/-! ### The matches of a rule -/

section Matches

variable {file : String} {number : Int} {line : Text.Line} {rule : Rule}

/-- A match of a rule is the text that its pattern takes at the place of its column. -/
lemma eq_of_mem_ruleMatches {found : Match} (h : found ∈ Scan.ruleMatches file number line rule) :
    found.text ≠ "" ∧ ∃ before after, line = before ++ found.text.toList ++ after ∧
      found.column = before.length + 1 ∧
      rule.pattern.taken? before (found.text.toList ++ after) = some found.text.toList := by
  obtain ⟨occurrence, hoccurrence, rfl⟩ := List.mem_map.mp h
  obtain ⟨before, after, hline, hstart, htaken⟩ := Pattern.occurrences_sound hoccurrence
  dsimp only
  rw [String.toList_ofList]
  refine ⟨?_, before, after, hline, by rw [hstart], htaken⟩
  intro hempty
  apply (Pattern.taken?_eq_some_iff.mp htaken).1
  rw [← String.toList_ofList (l := occurrence.text), hempty]
  rfl

lemma pairwise_ruleMatches (file : String) (number : Int) (line : Text.Line) (rule : Rule) :
    (Scan.ruleMatches file number line rule).Pairwise
      fun a b : Match => a.column + a.text.length ≤ b.column := by
  unfold Scan.ruleMatches
  rw [List.pairwise_map]
  refine (Pattern.pairwise_occurrences rule.pattern line).imp ?_
  intro a b hab
  dsimp only
  rw [String.length_ofList]
  omega

/-- Whatever the pattern of a rule looks like, its matches on a line are the texts that it takes at
their columns, none of them empty; they come from left to right without overlap, and no place at
which the pattern takes something is outside of all of them. -/
theorem ruleMatches_placed (file : String) (number : Int) (line : Text.Line) (rule : Rule) :
    (∀ found ∈ Scan.ruleMatches file number line rule, found.text ≠ "" ∧ 1 ≤ found.column ∧
      found.text.toList =
        Text.range line (found.column - 1) (found.column - 1 + found.text.length) ∧
      rule.pattern.taken? (line.take (found.column - 1).toNat)
        (line.drop (found.column - 1).toNat) = some found.text.toList) ∧
    (Scan.ruleMatches file number line rule).Pairwise
      (fun a b : Match => a.column + a.text.length ≤ b.column) ∧
    ∀ before after, line = before ++ after → (rule.pattern.taken? before after).isSome →
      ∃ found ∈ Scan.ruleMatches file number line rule,
        found.column ≤ before.length + 1 ∧ before.length + 1 < found.column + found.text.length := by
  refine ⟨?_, pairwise_ruleMatches file number line rule, ?_⟩
  · intro found hfound
    obtain ⟨hfull, before, after, hline, hcolumn, htaken⟩ := eq_of_mem_ruleMatches hfound
    have hstart : found.column - 1 = (before.length : Nat) := by omega
    have hstop : found.column - 1 + found.text.length =
        ((before.length + found.text.toList.length : Nat) : Int) := by
      rw [hstart, String.length_toList]
      omega
    refine ⟨hfull, by omega, ?_, ?_⟩
    · rw [hstop, hstart, Scope.range_natCast, hline, ← List.length_append, List.take_left,
        List.drop_left]
    · rw [hstart, Int.toNat_natCast, hline, List.append_assoc, List.take_left, List.drop_left]
      exact htaken
  · rintro before after rfl htaken
    obtain ⟨occurrence, hoccurrence, hstart, hstop⟩ :=
      Pattern.occurrences_cover htaken
    refine ⟨_, List.mem_map.mpr ⟨occurrence, hoccurrence, rfl⟩, ?_, ?_⟩
    · dsimp only
      omega
    · dsimp only
      rw [String.length_ofList]
      omega

end Matches

/-- A rule that looks ahead, refers back and would rather take nothing. -/
def reluctantRule : Rule where
  id := "reluctant"
  pattern := .known Rule.Builtin.anyCase "(?=(a))\\1|b??"
  message := "m"
  severity := .low
  description := "m"

/-- The last character is taken although the pattern would rather take nothing in front of it. -/
theorem ruleMatches_placed_reluctant :
    "aAb".toList = "aA".toList ++ "b".toList ∧
    (reluctantRule.pattern.taken? "aA".toList "b".toList).isSome ∧
    ∃ found ∈ Scan.ruleMatches "a.ts" 1 "aAb".toList reluctantRule,
      found.column ≤ 3 ∧ 3 < found.column + found.text.length := by
  have htaken : (reluctantRule.pattern.taken? "aA".toList "b".toList).isSome := by decide +kernel
  obtain ⟨-, -, hcovers⟩ := ruleMatches_placed "a.ts" 1 "aAb".toList reluctantRule
  exact ⟨rfl, htaken, hcovers "aA".toList "b".toList rfl htaken⟩

end SlopLint
