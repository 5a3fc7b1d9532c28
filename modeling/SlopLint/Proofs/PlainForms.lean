import Mathlib.Data.List.Forall2
import Mathlib.Tactic.Lemma
import SlopLint.Proofs.CatchClauses
import SlopLint.Proofs.PatternForms

/-!
# Patterns in which case counts

What the pieces of a pattern take when it is read without flags: a character, a word, one of
several words, blanks, and the end of a word.
-/

namespace SlopLint.Text

/-- A text of blanks only. -/
def IsGap (text : List Char) : Prop :=
  ∀ c ∈ text, isBlank c = true

/-- No word goes on behind a place; `after` is the text there. -/
def NoWordAhead (after : List Char) : Prop :=
  ∀ c ∈ after.head?, isWord c = false

/-- No word goes on in front of a place; `before` is the text there. -/
def NoWordBehind (before : List Char) : Prop :=
  ∀ c ∈ before.getLast?, isWord c = false

end SlopLint.Text

namespace SlopLint.Pattern

open Text
open Scope (plainMode)

namespace Plain

/-- A character that stands for itself. -/
def mark (c : Char) : Node := .char plainMode (.code false c.toNat)

/-- Blanks, as many as there are. -/
def blanks : Node := .loop .greedy 0 none (.char plainMode (.category false .blank))

/-- Blanks, one at least. -/
def someBlanks : Node := .loop .greedy 1 none (.char plainMode (.category false .blank))

/-- A test that one of some characters passes. -/
def among (marks : List Char) : CharTest := .set false (marks.map fun c => .code c.toNat)

/-- A group that takes one of some words. -/
def oneOf (group : Nat) (words : List String) : Node :=
  .capture group (.choice (words.map fun word => .sequence (plainMode.word word.toList)))

/-- The place behind a word. -/
def boundary : Node := .anchor (.wordBoundary false false)

section Pieces

variable {before text after : List Char} {nodes : List Node}

lemma passes_code {c d : Char} : (CharTest.code false c.toNat).passes plainMode d = true ↔ d = c := by
  rw [show (CharTest.code false c.toNat).passes plainMode d = (d.toNat == c.toNat) from
    Bool.bne_false _, beq_iff_eq, Char.toNat_inj]

lemma passes_blank {c : Char} :
    (CharTest.category false .blank).passes plainMode c = true ↔ isBlank c = true := by
  rw [show (CharTest.category false .blank).passes plainMode c = isBlank c from Bool.bne_false _]

lemma passes_other {c d : Char} : (CharTest.code true c.toNat).passes plainMode d = true ↔ d ≠ c := by
  rw [show (CharTest.code true c.toNat).passes plainMode d = !(d.toNat == c.toNat) from
    Bool.bne_true _, Bool.not_eq_true', beq_eq_false_iff_ne, ne_eq, Char.toNat_inj]

lemma passes_word {c : Char} :
    (CharTest.category false .word).passes plainMode c = true ↔ isWord c = true := by
  rw [show (CharTest.category false .word).passes plainMode c = isWord c from Bool.bne_false _]

lemma passes_among {marks : List Char} {c : Char} :
    (among marks).passes plainMode c = true ↔ c ∈ marks := by
  rw [show (among marks).passes plainMode c =
    (marks.map fun d => SetItem.code d.toNat).any (·.takes false c) from Bool.bne_false _,
    List.any_map, List.any_eq_true]
  simp [SetItem.takes, Char.toNat_inj]

lemma spells_iff {word : List Char} : plainMode.Spells word text ↔ text = word := by
  constructor
  · exact Scope.CatchClause.spells_plain
  · rintro rfl
    exact List.forall₂_same.mpr fun c _ => beq_self_eq_true c.toNat

lemma takes_mark_cons {c : Char} :
    (Node.sequence (mark c :: nodes)).takes before text after ↔
      ∃ rest, text = c :: rest ∧ (Node.sequence nodes).takes (c :: before) rest after := by
  unfold mark
  rw [takes_char_cons]
  constructor
  · rintro ⟨d, rest, rfl, hpasses, hrest⟩
    obtain rfl := passes_code.mp hpasses
    exact ⟨rest, rfl, hrest⟩
  · rintro ⟨rest, rfl, hrest⟩
    exact ⟨c, rest, rfl, passes_code.mpr rfl, hrest⟩

lemma takes_word_append {word : List Char} :
    (Node.sequence (plainMode.word word ++ nodes)).takes before text after ↔
      ∃ rest, text = word ++ rest ∧
        (Node.sequence nodes).takes (word.reverse ++ before) rest after := by
  rw [Pattern.takes_word_append]
  simp only [spells_iff]
  constructor
  · rintro ⟨_, rest, rfl, rfl, hrest⟩
    exact ⟨rest, rfl, hrest⟩
  · rintro ⟨rest, rfl, hrest⟩
    exact ⟨word, rest, rfl, rfl, hrest⟩

lemma takes_blanks_cons :
    (Node.sequence (blanks :: nodes)).takes before text after ↔
      ∃ gap rest, text = gap ++ rest ∧ IsGap gap ∧
        (Node.sequence nodes).takes (gap.reverse ++ before) rest after := by
  unfold blanks
  simp only [takes_star_cons, passes_blank]
  rfl

lemma takes_oneOf_cons {group : Nat} {words : List String} (hwords : words ≠ []) :
    (Node.sequence (oneOf group words :: nodes)).takes before text after ↔
      ∃ word ∈ words, ∃ rest, text = word.toList ++ rest ∧
        (Node.sequence nodes).takes (word.toList.reverse ++ before) rest after := by
  have hword : ∀ {before text after}, (oneOf group words).takes before text after ↔
      ∃ word ∈ words, text = word.toList := by
    intro before text after
    change (Node.choice _).takes before text after ↔ _
    rw [takes_choice (by simpa using hwords)]
    simp only [List.mem_map, exists_exists_and_eq_and, takes_word, spells_iff]
  rw [takes_sequence_cons]
  constructor
  · rintro ⟨_, rest, rfl, htaken, hrest⟩
    obtain ⟨word, hmem, rfl⟩ := hword.mp htaken
    exact ⟨word, hmem, rest, rfl, hrest⟩
  · rintro ⟨word, hmem, rest, rfl, hrest⟩
    exact ⟨word.toList, rest, rfl, hword.mpr ⟨word, hmem, rfl⟩, hrest⟩

lemma takes_nil : (Node.sequence []).takes before text after ↔ text = [] :=
  Iff.rfl

/-- Behind a word, the boundary is where it does not go on. -/
lemma takes_boundary {word : List Char} (hword : word.getLast?.any isWord = true) :
    (Node.sequence [boundary]).takes (word.reverse ++ before) text after ↔
      text = [] ∧ NoWordAhead after := by
  have hbehind : (word.reverse ++ before).head?.any isWord = true := by
    rw [List.head?_append, List.head?_reverse]
    cases hlast : word.getLast? with
    | none =>
      rw [hlast] at hword
      cases hword
    | some c =>
      rw [hlast] at hword
      exact hword
  have hahead : ∀ rest : List Char, true ≠ rest.head?.any isWord ↔ NoWordAhead rest := by
    intro rest
    cases rest <;> simp [NoWordAhead]
  unfold boundary
  rw [takes_boundary_cons, takes_nil, hbehind, hahead]
  constructor
  · rintro ⟨hahead, rfl⟩
    exact ⟨rfl, hahead⟩
  · rintro ⟨rfl, hahead⟩
    exact ⟨hahead, rfl⟩

end Pieces

end Plain

end SlopLint.Pattern
