import Mathlib.Tactic.Lemma
import SlopLint.Proofs.PatternForms
import SlopLint.Scope

/-!
# How a clause ends

A `catch` clause in front of its brace ends in its key word, in the parenthesis behind what it binds,
or in blanks. So a text that ends in another character ends in no clause.
-/

namespace SlopLint.Scope

open Text

/-- The mode of patterns that are read without flags. -/
def plainMode : Pattern.Mode := ⟨false, false⟩

namespace CatchClause

open Pattern

def boundary : Node := .anchor (.wordBoundary false false)

def blanks : Node := .loop .greedy 0 none (.char plainMode (.category false .blank))

/-- What the clause binds, between parentheses. -/
def binding : Node := .sequence
  [.char plainMode (.code false 40), .loop .greedy 0 none (.char plainMode (.code true 41)),
    .char plainMode (.code false 41)]

/-- The clause by its pieces. -/
def node : Node := .sequence (boundary :: (plainMode.word "catch".toList ++
  [boundary, blanks, .loop .greedy 0 (some 1) binding, blanks, .anchor .beforeLastNewline]))

lemma node_eq : catchClause.node = node := by
  decide +kernel

lemma isRegular_node : node.isRegular = true := by
  decide

/-- The characters that a clause can end in. -/
def EndsIn (text : List Char) : Prop :=
  ∀ c ∈ text.getLast?, c = 'h' ∨ c = ')' ∨ isBlank c = true

lemma EndsIn.append {front text : List Char} (hfront : EndsIn front) (htext : EndsIn text) :
    EndsIn (front ++ text) := by
  intro c hc
  rw [List.getLast?_append] at hc
  cases hlast : text.getLast? with
  | none =>
    rw [hlast] at hc
    exact hfront c hc
  | some d =>
    rw [hlast] at hc
    exact htext c (hlast ▸ hc)

lemma endsIn_blanks {gap : List Char}
    (h : ∀ c ∈ gap, (CharTest.category false .blank).passes plainMode c = true) : EndsIn gap := by
  intro c hc
  have hblank := h c (List.mem_of_getLast? hc)
  rw [show (CharTest.category false .blank).passes plainMode c = isBlank c from
    Bool.bne_false _] at hblank
  exact .inr (.inr hblank)

lemma spells_plain {word text : List Char} (h : plainMode.Spells word text) : text = word := by
  induction h with
  | nil => rfl
  | cons hd _ ih =>
    have hsame : _ = _ := Char.toNat_inj.mp (eq_of_beq hd)
    rw [hsame, ih]

lemma endsIn_binding {before text after : List Char}
    (h : (Node.loop .greedy 0 (some 1) binding).takes before text after) : EndsIn text := by
  obtain ⟨_, tail, rfl, rfl, n, hn, hrounds⟩ := h
  rw [List.nil_append]
  match n with
  | 0 =>
    obtain rfl := hrounds
    intro c hc
    cases hc
  | 1 =>
    obtain ⟨head, _, rfl, hhead, rfl⟩ := hrounds
    obtain ⟨c, _, rfl, -, hrest⟩ := takes_char_cons.mp hhead
    obtain ⟨run, _, rfl, -, hrest⟩ := takes_star_cons.mp hrest
    obtain ⟨d, _, rfl, hd, rfl⟩ := takes_char_cons.mp hrest
    have hclose : d = ')' := by
      have hcode : (d.toNat == 41) = true := by
        rw [← hd]
        exact (Bool.bne_false _).symm
      exact Char.toNat_inj.mp (eq_of_beq hcode)
    intro e he
    rw [hclose, List.append_nil, ← List.cons_append, List.getLast?_concat] at he
    exact .inr (.inl (Option.some.inj he).symm)
  | n + 2 =>
    have := hn 1 rfl
    omega

lemma endsIn_of_takes {before text after : List Char} (skipped : List Char)
    (h : node.takes before text after) : EndsIn (skipped ++ text ++ after) := by
  obtain ⟨-, hrest⟩ := takes_boundary_cons.mp h
  obtain ⟨word, _, rfl, hword, hrest⟩ := takes_word_append.mp hrest
  obtain ⟨-, hrest⟩ := takes_boundary_cons.mp hrest
  obtain ⟨gap, _, rfl, hgap, hrest⟩ := takes_star_cons.mp hrest
  obtain ⟨bound, _, rfl, hbound, hrest⟩ := (takes_sequence_cons _ _).mp hrest
  obtain ⟨gap', _, rfl, hgap', hrest⟩ := takes_star_cons.mp hrest
  obtain ⟨rfl, hend⟩ := hrest
  have hcatch : EndsIn (skipped ++ word) := by
    intro c hc
    rw [spells_plain hword, List.getLast?_append] at hc
    exact .inl (Option.some.inj hc).symm
  have hafter : EndsIn after := by
    have hrest : after = [] ∨ after = ['\n'] := by
      simpa [Anchor.holds, Cursor.between] using hend
    rcases hrest with rfl | rfl
    · intro c hc
      cases hc
    · intro c hc
      obtain rfl := Option.some.inj hc
      exact .inr (.inr (by decide))
  have hall := (((hcatch.append (endsIn_blanks hgap)).append (endsIn_binding hbound)).append
    (endsIn_blanks hgap')).append hafter
  simpa only [List.append_assoc, List.append_nil] using hall

/-- A text that ends in a clause ends in a character that clauses end in. -/
theorem endsIn_of_occursIn {text : List Char} (h : catchClause.occursIn text = true) :
    EndsIn text := by
  have hfound : (firstMatch node false [] text text.length).isSome := by
    rw [← node_eq]
    exact h
  obtain ⟨⟨s, t⟩, hmatch⟩ := Option.isSome_iff_exists.mp hfound
  obtain ⟨skipped, found, after, _, htext, -, -, htakes⟩ := firstMatch_eq_some isRegular_node hmatch
  rw [htext]
  exact endsIn_of_takes skipped htakes

lemma not_occursIn_nil : catchClause.occursIn [] = false := by
  decide +kernel

end CatchClause

end SlopLint.Scope
