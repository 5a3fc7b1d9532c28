import Mathlib.Data.List.Nodup
import SlopLint.Proofs.FindingOrigins
import SlopLint.Proofs.JoinedTexts
import SlopLint.Proofs.StrippedTexts
import SlopLint.Proofs.WordForms

/-!
# Control structures that open on a line

A control structure opens where one of three words stands that is no end of a longer word and has
blanks and a parenthesis behind it. The search for several structures on a line counts each of
these places once. The search behind a deep indentation reads literals with one blank instead, so it
passes over openers that are spaced otherwise and takes the ends of longer words for openers.
-/

namespace SlopLint

open Text

namespace Nesting

/-- The words that open a control structure. -/
def controlWords : List String := ["if", "for", "while"]

/-- Whether a word opens a control structure at a place of a line. -/
def opensWith (line : Line) (place : Nat) (word : String) : Bool :=
  (line.take place).getLast?.all (fun c => !isWord c) && word.toList.isPrefixOf (line.drop place) &&
    (stripLeft (line.drop (place + word.toList.length))).head? == some '('

def opensAt (line : Line) (place : Nat) : Bool :=
  controlWords.any (opensWith line place)

/-- The number of places at which a control structure opens on a line. -/
def openings (line : Line) : Nat :=
  (List.range line.length).countP (opensAt line)

/-! ### Places of openers -/

lemma head?_stripLeft_iff {mark : Char} (hmark : isBlank mark = false) {text : List Char} :
    (stripLeft text).head? = some mark ↔ ∃ gap after, IsGap gap ∧ text = gap ++ mark :: after := by
  constructor
  · intro h
    obtain ⟨after, hafter⟩ := List.head?_eq_some_iff.mp h
    refine ⟨text.takeWhile isBlank, after, fun c hc => List.mem_takeWhile_imp hc, ?_⟩
    rw [← hafter, takeWhile_append_stripLeft]
  · rintro ⟨gap, after, hgap, rfl⟩
    rw [stripLeft, List.dropWhile_append_of_pos hgap, List.dropWhile_cons_of_neg (by simp [hmark])]
    rfl

lemma all_getLast?_iff {before : List Char} :
    before.getLast?.all (fun c => !isWord c) = true ↔ NoWordBehind before := by
  unfold NoWordBehind
  cases before.getLast? <;> simp

lemma opensWith_iff {line : Line} {place : Nat} {word : String} :
    opensWith line place word = true ↔
      ∃ before gap after, line = before ++ (word.toList ++ (gap ++ ['('])) ++ after ∧
        before.length = place ∧ NoWordBehind before ∧ IsGap gap := by
  have hmark : isBlank '(' = false := by decide
  simp only [opensWith, Bool.and_eq_true, all_getLast?_iff, List.isPrefixOf_iff_prefix, beq_iff_eq,
    head?_stripLeft_iff hmark]
  constructor
  · rintro ⟨⟨hbehind, rest, hrest⟩, gap, after, hgap, hafter⟩
    rw [← List.drop_drop, ← hrest, List.drop_left] at hafter
    have hplace : place ≤ line.length := by
      by_contra hbeyond
      rw [List.drop_eq_nil_of_le (by omega), hafter] at hrest
      simp at hrest
    refine ⟨line.take place, gap, after, ?_, List.length_take_of_le hplace, hbehind, hgap⟩
    have hline := List.take_append_drop place line
    rw [← hrest, hafter] at hline
    simpa using hline.symm
  · rintro ⟨before, gap, after, rfl, rfl, hbehind, hgap⟩
    refine ⟨⟨?_, gap ++ '(' :: after, ?_⟩, gap, after, hgap, ?_⟩
    · simpa using hbehind
    · simp
    · simp [← List.drop_drop]

lemma lt_length_of_opensWith {line : Line} {place : Nat} {word : String}
    (h : opensWith line place word = true) : place < line.length := by
  obtain ⟨before, gap, after, rfl, rfl, -⟩ := opensWith_iff.mp h
  simp only [List.length_append, List.length_singleton]
  omega

lemma lt_length_of_opensAt {line : Line} {place : Nat} (h : opensAt line place = true) :
    place < line.length := by
  obtain ⟨_, -, hword⟩ := List.any_eq_true.mp h
  exact lt_length_of_opensWith hword

/-- No two of the words open at one place. -/
lemma opensWith_unique {line : Line} :
    controlWords.Pairwise fun word other => ∀ place,
      ¬ (opensWith line place word = true ∧ opensWith line place other = true) := by
  have hwords : controlWords.Pairwise fun word other =>
      ¬ word.toList <+: other.toList ∧ ¬ other.toList <+: word.toList := by decide
  refine hwords.imp ?_
  rintro word other ⟨hword, hother⟩ place ⟨h, h'⟩
  simp only [opensWith, Bool.and_eq_true, List.isPrefixOf_iff_prefix] at h h'
  rcases List.prefix_or_prefix_of_prefix h.1.2 h'.1.2 with hshort | hshort
  · exact hword hshort
  · exact hother hshort

end Nesting

/-- An opener of a control structure, whatever stands in front of it. -/
def Form.control : Form :=
  { networkCall with words := Nesting.controlWords }

namespace Nesting

lemma separated_control : Form.control.Separated := by
  refine Form.separated_of_gap ['('] (by decide) (List.forall_iff_forall_mem.mp (by decide))
    (by decide) (List.forall_iff_forall_mem.mp (by decide)) ?_
  rintro _ after ⟨gap, rfl, hgap⟩
  exact ⟨gap, rfl, hgap⟩

/-! ### What the patterns find -/

section Patterns

open Pattern (Node)
open Pattern.Plain
open Scope (plainMode)

/-- The pattern for what one of the words opens. -/
def openerNode (word : String) : Node :=
  .sequence (boundary :: (plainMode.word word.toList ++ [blanks, mark '(']))

lemma takes_openerNode {word : String} (hword : word ∈ controlWords)
    {before text after : List Char} :
    (openerNode word).takes before.reverse text after ↔
      NoWordBehind before ∧ ∃ gap, text = word.toList ++ (gap ++ ['(']) ∧ IsGap gap := by
  have hletters : ∀ word ∈ controlWords, word.toList.head?.any isWord = true := by decide
  have hahead : ∀ rest : List Char, (word.toList ++ rest).head?.any isWord = true := by
    intro rest
    have hletter := hletters word hword
    cases hchars : word.toList with
    | nil => simp [hchars] at hletter
    | cons c letters => simpa [hchars] using hletter
  have hbehind : before.reverse.head?.any isWord ≠ true ↔ NoWordBehind before := by
    rw [List.head?_reverse]
    unfold NoWordBehind
    cases before.getLast? <;> simp
  unfold openerNode boundary
  rw [Pattern.takes_boundary_cons, takes_word_append]
  simp only [takes_blanks_cons, takes_mark_cons, takes_nil]
  constructor
  · rintro ⟨hhere, _, rfl, gap, _, rfl, hgap, _, rfl, rfl⟩
    rw [List.append_assoc, hahead, hbehind] at hhere
    exact ⟨hhere, gap, rfl, hgap⟩
  · rintro ⟨hhere, gap, rfl, hgap⟩
    refine ⟨?_, _, rfl, gap, _, rfl, hgap, [], rfl, rfl⟩
    rw [List.append_assoc, hahead]
    exact hbehind.mpr hhere

section Openers

variable {opener : Pattern} {word : String} (hnode : opener.node = openerNode word)
  (hword : word ∈ controlWords)
include hnode hword

lemma isRegular_opener : opener.node.isRegular = true := by
  have hwords : ∀ word ∈ controlWords, (openerNode word).isRegular = true := by decide
  rw [hnode]
  exact hwords word hword

lemma opensWith_of_mem_occurrences {line : Line} {occurrence : Pattern.Occurrence}
    (h : occurrence ∈ opener.occurrences line) :
    opensWith line occurrence.start word = true ∧
      Form.control.StandsAt line occurrence.start occurrence.text := by
  obtain ⟨-, before, after, hline, hstart, htakes⟩ :=
    Pattern.takes_of_mem_occurrences (isRegular_opener hnode hword) h
  rw [hnode, takes_openerNode hword] at htakes
  obtain ⟨hbehind, gap, htext, hgap⟩ := htakes
  constructor
  · exact opensWith_iff.mpr ⟨before, gap, after, by rw [hline, htext], hstart, hbehind, hgap⟩
  · exact ⟨before, after, hline, hstart, word, hword, gap ++ ['('], htext, gap, rfl, hgap⟩

/-- The occurrences of an opener start at the places at which its word opens a structure. -/
lemma mem_starts_iff {line : Line} {place : Nat} :
    place ∈ (opener.occurrences line).map Pattern.Occurrence.start ↔
      opensWith line place word = true := by
  rw [List.mem_map]
  constructor
  · rintro ⟨occurrence, hoccurrence, rfl⟩
    exact (opensWith_of_mem_occurrences hnode hword hoccurrence).1
  · intro h
    obtain ⟨before, gap, after, rfl, rfl, hbehind, hgap⟩ := opensWith_iff.mp h
    have htakes : opener.node.takes before.reverse (word.toList ++ (gap ++ ['('])) after := by
      rw [hnode, takes_openerNode hword]
      exact ⟨hbehind, gap, rfl, hgap⟩
    obtain ⟨occurrence, hoccurrence, hle, hlt⟩ := Pattern.occurrences_cover_of_takes
      (isRegular_opener hnode hword) (by simp) htakes
    rw [← List.append_assoc before] at hoccurrence
    -- two occurrences of the form never overlap, so this one starts at the place itself
    have hstands := (opensWith_of_mem_occurrences hnode hword hoccurrence).2
    have hhere : Form.control.StandsAt _ before.length (word.toList ++ (gap ++ ['('])) :=
      ⟨before, after, rfl, rfl, word, hword, gap ++ ['('], rfl, gap, rfl, hgap⟩
    exact ⟨occurrence, hoccurrence, (Form.eq_of_standsAt separated_control hstands hhere hle hlt).1⟩

lemma length_occurrences (line : Line) :
    (opener.occurrences line).length =
      (List.range line.length).countP fun place => opensWith line place word := by
  have hstarts : ((opener.occurrences line).map Pattern.Occurrence.start).Perm
      ((List.range line.length).filter fun place => opensWith line place word) := by
    refine (List.perm_ext_iff_of_nodup ?_ (List.nodup_range.filter _)).mpr ?_
    · refine List.pairwise_map.mpr ((Pattern.pairwise_start_occurrences opener line).imp ?_)
      intro a b hab
      exact Nat.ne_of_lt hab
    · intro place
      rw [mem_starts_iff hnode hword, List.mem_filter, List.mem_range]
      exact ⟨fun h => ⟨lt_length_of_opensWith h, h⟩, And.right⟩
  rw [List.countP_eq_length_filter, ← hstarts.length_eq, List.length_map]

end Openers

end Patterns

lemma countP_or {α : Type} {p q : α → Bool} (h : ∀ a, ¬ (p a = true ∧ q a = true))
    (values : List α) : values.countP (fun a => p a || q a) = values.countP p + values.countP q := by
  induction values with
  | nil => rfl
  | cons a values ih =>
    have ha : ¬ (p a = true ∧ q a = true) := h a
    simp only [List.countP_cons, ih]
    cases hp : p a <;> cases hq : q a <;> simp [hp, hq] at ha ⊢ <;> omega

/-- Where tests exclude each other, what passes one of them is counted by one of them. -/
lemma countP_any {α β : Type} {test : α → β → Bool} {keys : List β}
    (h : keys.Pairwise fun k l => ∀ a, ¬ (test a k = true ∧ test a l = true)) (values : List α) :
    values.countP (fun a => keys.any (test a)) =
      keys.foldr (fun k count => values.countP (fun a => test a k) + count) 0 := by
  induction keys with
  | nil => simp
  | cons k keys ih =>
    obtain ⟨hfirst, hrest⟩ := List.pairwise_cons.mp h
    have hapart : ∀ a, ¬ (test a k = true ∧ keys.any (test a) = true) := by
      rintro a ⟨hk, hany⟩
      obtain ⟨l, hl, htest⟩ := List.any_eq_true.mp hany
      exact hfirst l hl a ⟨hk, htest⟩
    simp only [List.any_cons, List.foldr_cons, countP_or hapart, ih hrest]

/-- Every opener is counted once: no occurrence hides another, and no two patterns share one. -/
theorem openerCount_eq_openings (line : Line) : openerCount line = openings line := by
  have hcounts : ∀ {patterns : List Pattern} {words : List String},
      List.Forall₂ (fun opener word => opener.node = openerNode word) patterns words →
      (∀ word ∈ words, word ∈ controlWords) →
      patterns.foldr (fun opener count => (opener.occurrences line).length + count) 0 =
        words.foldr (fun word count =>
          (List.range line.length).countP (fun place => opensWith line place word) + count) 0 := by
    intro patterns words hnodes hwords
    induction hnodes with
    | nil => rfl
    | cons hnode _ ih =>
      obtain ⟨hword, hrest⟩ := List.forall_mem_cons.mp hwords
      rw [List.foldr_cons, List.foldr_cons, ih hrest, length_occurrences hnode hword]
  have hnodes : List.Forall₂ (fun opener word => opener.node = openerNode word) openers
      controlWords := by
    refine .cons ?_ (.cons ?_ (.cons ?_ .nil)) <;> decide +kernel
  rw [openerCount, hcounts hnodes fun _ hword => hword, openings]
  exact (countP_any opensWith_unique _).symm

example : openings "for(;;) if (a) notif (b) while".toList = 2 := by decide +kernel

/-! ### Findings on a line -/

section Findings

variable (file : String) (number : Int) (line : Line)

/-- Whether a line has a finding with a message. -/
def Reports (message : String) : Prop :=
  ∃ found ∈ issues file number line, found.message = message

lemma reports_dense_iff : Reports file number line denseMessage ↔ 2 ≤ openings line := by
  have hother : deepMessage ≠ denseMessage := by decide
  rw [← openerCount_eq_openings]
  simp only [Reports, mem_nesting_iff]
  constructor
  · rintro ⟨_, ⟨hdense, -⟩ | ⟨-, rfl⟩, hmessage⟩
    · exact hdense
    · exact absurd hmessage hother
  · intro h
    exact ⟨_, .inl ⟨h, rfl⟩, rfl⟩

lemma reports_deep_iff_isDeep : Reports file number line deepMessage ↔ isDeep line = true := by
  have hother : denseMessage ≠ deepMessage := by decide
  simp only [Reports, mem_nesting_iff]
  constructor
  · rintro ⟨_, ⟨-, rfl⟩ | ⟨hdeep, -⟩, hmessage⟩
    · exact absurd hmessage hother
    · exact hdeep
  · intro h
    exact ⟨_, .inr ⟨h, rfl⟩, rfl⟩

lemma indent_eq : indent line = (line.takeWhile isBlank).length := by
  have hline := congrArg List.length (takeWhile_append_stripLeft line)
  rw [List.length_append] at hline
  unfold indent
  omega

/-- Behind its indentation a line goes on with what is left when it is stripped. -/
lemma strip_prefix_drop_indent : strip line <+: line.drop (indent line) := by
  have hdrop : (line.takeWhile isBlank ++ stripLeft line).drop (line.takeWhile isBlank).length =
      stripLeft line := List.drop_left
  rw [takeWhile_append_stripLeft, ← indent_eq] at hdrop
  rw [hdrop]
  exact strip_prefix_stripLeft line

/-- A line is reported for several structures when they open at two places at least. It is the first
finding of the line, and the code of the other one stands at its column. -/
theorem dense_findings_count_openings :
    (Reports file number line denseMessage ↔ 2 ≤ openings line) ∧
    (∀ found ∈ issues file number line, found.message = denseMessage →
      found = ⟨"complex_nested_conditionals", file, number, 1, String.ofList (strip line),
        denseMessage, "medium"⟩) ∧
    (issues file number line).Pairwise
      (fun a b => a.message = denseMessage ∧ b.message = deepMessage) ∧
    ∀ found ∈ issues file number line, found.message = deepMessage →
      1 ≤ found.column ∧ found.code.toList <+: line.drop (found.column - 1).toNat := by
  have hmessages : denseMessage ≠ deepMessage := by decide
  refine ⟨reports_dense_iff file number line, ?_, ?_, ?_⟩
  · intro found hfound hmessage
    rcases mem_nesting_iff.mp hfound with ⟨-, rfl⟩ | ⟨-, rfl⟩
    · rfl
    · exact absurd hmessage.symm hmessages
  · unfold issues
    split <;> split <;> simp [issue]
  · intro found hfound hmessage
    rcases mem_nesting_iff.mp hfound with ⟨-, rfl⟩ | ⟨-, rfl⟩
    · exact absurd hmessage hmessages
    · simp only [issue, String.toList_ofList]
      refine ⟨by omega, ?_⟩
      have hcolumn : ((indent line : Int) + 1 - 1).toNat = indent line := by omega
      rw [hcolumn]
      exact strip_prefix_drop_indent line

/-- A line with at least sixteen leading blanks that is no comment and holds no arrow. -/
structure IsDeepCode (line : Line) : Prop where
  deep : 16 ≤ (line.takeWhile isBlank).length
  uncommented : ¬ "//".toList <+: strip line
  arrowless : ¬ "=>".toList <:+: strip line

/-- Whether one of the words is at a place of a line with one blank and a parenthesis behind it,
whatever is in front of it. -/
def SpacedAt (line : Line) (place : Nat) : Prop :=
  ∃ word ∈ controlWords, (word ++ " (").toList <+: line.drop place

lemma exists_spacedAt_iff : (∃ place, SpacedAt line place) ↔
    ∃ word ∈ controlWords, (word ++ " (").toList <:+: line := by
  constructor
  · rintro ⟨place, word, hword, hhere⟩
    exact ⟨word, hword, hhere.isInfix.trans (List.drop_suffix place line).isInfix⟩
  · rintro ⟨word, hword, before, after, rfl⟩
    refine ⟨before.length, word, hword, ?_⟩
    rw [List.append_assoc, List.drop_left]
    exact List.prefix_append _ _

lemma hasAny_iff_exists_spacedAt :
    hasAny line ["if (", "for (", "while ("] = true ↔ ∃ place, SpacedAt line place := by
  have hliterals : ["if (", "for (", "while ("] = controlWords.map (· ++ " (") := by decide
  rw [exists_spacedAt_iff, hliterals, hasAny, List.any_map, List.any_eq_true]
  simp only [Function.comp_apply, has, occursIn_iff]

lemma strip_ne_nil_of_spacedAt (h : ∃ place, SpacedAt line place) : strip line ≠ [] := by
  have hsigns : isBlank 'i' = false ∧ isBlank 'f' = false ∧ isBlank 'w' = false ∧
      isBlank '(' = false := by decide
  have hends : ∀ word ∈ controlWords, (∃ c, (word ++ " (").toList.head? = some c ∧
      isBlank c = false) ∧ ∃ c, (word ++ " (").toList.getLast? = some c ∧ isBlank c = false := by
    simp [controlWords, hsigns]
  obtain ⟨word, hword, hline⟩ := (exists_spacedAt_iff line).mp h
  obtain ⟨⟨c, hc, hsign⟩, hlast⟩ := hends word hword
  intro hempty
  have hnone := List.eq_nil_of_infix_nil (hempty ▸ infix_strip ⟨c, hc, hsign⟩ hlast hline)
  rw [hnone] at hc
  cases hc

lemma reports_deep_iff :
    Reports file number line deepMessage ↔ IsDeepCode line ∧ ∃ place, SpacedAt line place := by
  rw [reports_deep_iff_isDeep]
  simp only [isDeep, deepIndent, Bool.and_eq_true, Bool.not_eq_true', ← Bool.not_eq_true,
    decide_eq_true_eq, hasAny_iff_exists_spacedAt, indent_eq, List.isEmpty_iff,
    List.isPrefixOf_iff_prefix, has, occursIn_iff]
  constructor
  · rintro ⟨⟨⟨⟨-, hdeep⟩, hspaced⟩, huncommented⟩, harrowless⟩
    exact ⟨⟨hdeep, huncommented, harrowless⟩, hspaced⟩
  · rintro ⟨hcode, hspaced⟩
    exact ⟨⟨⟨⟨strip_ne_nil_of_spacedAt line hspaced, hcode.deep⟩, hspaced⟩, hcode.uncommented⟩,
      hcode.arrowless⟩

/-- At a place with a spaced word a control structure opens unless it is the end of another word. -/
lemma opensAt_iff_of_spacedAt {place : Nat} (h : SpacedAt line place) :
    opensAt line place = true ↔ NoWordBehind (line.take place) := by
  obtain ⟨word, hword, after, hafter⟩ := h
  constructor
  · intro hopens
    obtain ⟨_, -, hother⟩ := List.any_eq_true.mp hopens
    obtain ⟨before, _, _, rfl, rfl, hbehind, -⟩ := opensWith_iff.mp hother
    rwa [List.append_assoc, List.take_left]
  · intro hbehind
    refine List.any_eq_true.mpr ⟨word, hword, ?_⟩
    simp only [opensWith, Bool.and_eq_true, all_getLast?_iff, List.isPrefixOf_iff_prefix, beq_iff_eq,
      ← List.drop_drop, ← hafter, String.toList_append, List.append_assoc, List.drop_left]
    exact ⟨⟨hbehind, List.prefix_append _ _⟩, rfl⟩

lemma exists_occurrence_iff :
    (∃ opener ∈ openers, opener.occurrences line ≠ []) ↔ ∃ place, opensAt line place = true := by
  have hcount : (∃ opener ∈ openers, opener.occurrences line ≠ []) ↔ 0 < openerCount line := by
    simp only [openerCount, openers, List.foldr_cons, List.foldr_nil, List.exists_mem_cons_iff,
      List.not_mem_nil, false_and, exists_false, or_false, ← List.length_pos_iff]
    omega
  rw [hcount, openerCount_eq_openings, openings, List.countP_pos_iff]
  constructor
  · rintro ⟨place, -, hopens⟩
    exact ⟨place, hopens⟩
  · rintro ⟨place, hopens⟩
    exact ⟨place, List.mem_range.mpr (lt_length_of_opensAt hopens), hopens⟩

/-- A deep indentation is told of where a spaced word stands. Where this is no opener, or an opener
is spaced otherwise, it is not told of where the patterns for openers match. -/
theorem deep_findings_follow_spaced_words :
    (Reports file number line deepMessage ↔ IsDeepCode line ∧ ∃ place, SpacedAt line place) ∧
    ((Reports file number line deepMessage ↔
        IsDeepCode line ∧ ∃ opener ∈ openers, opener.occurrences line ≠ []) ↔
      (IsDeepCode line →
        ((∃ place, SpacedAt line place) ↔ ∃ place, opensAt line place = true))) ∧
    ∀ place, SpacedAt line place →
      (opensAt line place = true ↔ NoWordBehind (line.take place)) := by
  refine ⟨reports_deep_iff file number line, ?_, fun place => opensAt_iff_of_spacedAt line⟩
  rw [reports_deep_iff, exists_occurrence_iff]
  exact and_congr_right_iff

end Findings

/-- An opener without a blank is passed over, and the end of a longer word is taken for an opener. -/
theorem deep_findings_miss_openers :
    ¬ (Reports "a.ts" 1 "                if(ready) \x7b".toList deepMessage ↔
      IsDeepCode "                if(ready) \x7b".toList ∧
        ∃ opener ∈ openers, opener.occurrences "                if(ready) \x7b".toList ≠ []) ∧
    ¬ (Reports "a.ts" 1 "                notif (ready);".toList deepMessage ↔
      IsDeepCode "                notif (ready);".toList ∧
        ∃ opener ∈ openers, opener.occurrences "                notif (ready);".toList ≠ []) := by
  constructor
  · rw [reports_deep_iff_isDeep]
    have hquiet : isDeep "                if(ready) \x7b".toList = false := by decide +kernel
    have hcode : IsDeepCode "                if(ready) \x7b".toList :=
      ⟨by decide +kernel, by decide +kernel, by decide +kernel⟩
    have hfound : ∃ opener ∈ openers,
        opener.occurrences "                if(ready) \x7b".toList ≠ [] := by decide +kernel
    intro h
    have htold := h.mpr ⟨hcode, hfound⟩
    rw [hquiet] at htold
    cases htold
  · rw [reports_deep_iff_isDeep]
    have htold : isDeep "                notif (ready);".toList = true := by decide +kernel
    have hnone : ∀ opener ∈ openers,
        opener.occurrences "                notif (ready);".toList = [] := by decide +kernel
    intro h
    obtain ⟨-, opener, hopener, hfound⟩ := h.mp htold
    exact hfound (hnone opener hopener)

end Nesting

end SlopLint
