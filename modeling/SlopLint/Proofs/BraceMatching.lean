import Mathlib.Data.List.Infix
import Mathlib.Tactic.Lemma
import SlopLint.Text.Lines

/-!
# Matching braces

The characters of a file are read line by line, with the opening braces that are still open on a
stack: a closing brace belongs to the one on top, and it is stray when there is none. The brace a
text starts with is closed at the first place at which the text has closed all it has opened.
-/

namespace SlopLint.Scope

open Text

/-- Where a character stands: the number of its line, and how many characters are before it. -/
structure Place where
  line : Nat
  column : Nat
deriving DecidableEq, Repr

/-- The order in which places are read. -/
def Place.Before (p q : Place) : Prop :=
  p.line < q.line ∨ (p.line = q.line ∧ p.column < q.column)

/-- A text with the places of its characters. -/
abbrev PlacedText := List (Place × Char)

/-- The characters of the line with a number. -/
def lineMarks (number : Nat) (line : Line) : PlacedText :=
  line.zipIdx.map fun (c, column) => (⟨number, column⟩, c)

/-- The characters of lines, the first of which has the number `first`. -/
def marks (first : Nat) (lines : List Line) : PlacedText :=
  (lines.zipIdx first).flatMap fun (line, number) => lineMarks number line

/-- The open braces, the innermost one first, behind one more character. -/
def nextOpen (waiting : List Place) (mark : Place × Char) : List Place :=
  if mark.2 = '\x7b' then mark.1 :: waiting
  else if mark.2 = '\x7d' then waiting.tail
  else waiting

/-- The braces that are open behind a text, the innermost one first. -/
def openBehind (text : PlacedText) : List Place :=
  text.foldl nextOpen []

/-- There is a closing brace at the place, and no brace is open in front of it. -/
def IsStray (text : PlacedText) (q : Place) : Prop :=
  ∃ before after, text = before ++ (q, '\x7d') :: after ∧ openBehind before = []

/-- The closing brace at `q` belongs to the opening one at `p`. -/
def Closes (text : PlacedText) (p q : Place) : Prop :=
  ∃ before after, text = before ++ (q, '\x7d') :: after ∧ (openBehind before).head? = some p

/-- How many more braces a text opens than it closes. -/
def surplus (text : PlacedText) : Int :=
  ((text.map Prod.snd).count '\x7b' : Int) - ((text.map Prod.snd).count '\x7d' : Int)

/-! ### Places -/

lemma Place.Before.not_before {p q : Place} (h : p.Before q) : ¬ q.Before p := by
  unfold Place.Before at h ⊢
  omega

lemma Place.Before.line_le {p q : Place} (h : p.Before q) : p.line ≤ q.line := by
  unfold Place.Before at h
  omega

lemma marks_append (first : Nat) (lines lines' : List Line) :
    marks first (lines ++ lines') = marks first lines ++ marks (first + lines.length) lines' := by
  unfold marks
  rw [List.zipIdx_append, List.flatMap_append]

lemma marks_cons (first : Nat) (line : Line) (lines : List Line) :
    marks first (line :: lines) = lineMarks first line ++ marks (first + 1) lines := by
  unfold marks
  rw [List.zipIdx_cons, List.flatMap_cons]

lemma marks_singleton (first : Nat) (line : Line) : marks first [line] = lineMarks first line := by
  rw [marks_cons]
  exact List.append_nil _

lemma lineMarks_concat (number : Nat) (line : Line) (c : Char) :
    lineMarks number (line ++ [c]) = lineMarks number line ++ [(⟨number, line.length⟩, c)] := by
  unfold lineMarks
  simp [List.zipIdx_append]

lemma mem_lineMarks {number : Nat} {line : Line} {mark : Place × Char}
    (h : mark ∈ lineMarks number line) : mark.1.line = number ∧ mark.1.column < line.length := by
  obtain ⟨⟨c, column⟩, hmem, rfl⟩ := List.mem_map.mp h
  have hcolumn := List.snd_lt_of_mem_zipIdx hmem
  simpa using hcolumn

lemma line_of_mem_marks {first : Nat} {lines : List Line} {mark : Place × Char}
    (h : mark ∈ marks first lines) :
    first ≤ mark.1.line ∧ mark.1.line < first + lines.length := by
  obtain ⟨⟨line, number⟩, hline, hmark⟩ := List.mem_flatMap.mp h
  have hnumber := (mem_lineMarks hmark).1
  have hlow := List.le_snd_of_mem_zipIdx hline
  have hhigh := List.snd_lt_add_of_mem_zipIdx hline
  dsimp only at hnumber hlow hhigh
  omega

lemma pairwise_lineMarks (number : Nat) (line : Line) :
    (lineMarks number line).Pairwise fun a b => a.1.Before b.1 := by
  induction line using List.reverseRecOn with
  | nil => exact .nil
  | append_singleton line c ih =>
    rw [lineMarks_concat, List.pairwise_append]
    refine ⟨ih, List.pairwise_singleton _ _, ?_⟩
    intro a ha b hb
    obtain rfl := List.mem_singleton.mp hb
    exact .inr (mem_lineMarks ha)

/-- The characters of lines come in the order of their places. -/
theorem pairwise_marks (first : Nat) (lines : List Line) :
    (marks first lines).Pairwise fun a b => a.1.Before b.1 := by
  induction lines generalizing first with
  | nil => exact .nil
  | cons line rest ih =>
    rw [marks_cons, List.pairwise_append]
    refine ⟨pairwise_lineMarks first line, ih (first + 1), ?_⟩
    intro a ha b hb
    have hfirst := (mem_lineMarks ha).1
    have hlater := (line_of_mem_marks hb).1
    exact .inl (by omega)

/-- In the order of their places, what follows a character stands elsewhere. -/
lemma ne_of_pairwise {before after : PlacedText} {p : Place} {c : Char}
    (hsorted : (before ++ (p, c) :: after).Pairwise fun a b => a.1.Before b.1) :
    ∀ mark ∈ after, mark.1 ≠ p := by
  rintro mark hmark rfl
  have hbefore := (List.pairwise_cons.mp (List.pairwise_append.mp hsorted).2.1).1 mark hmark
  exact hbefore.not_before hbefore

/-! ### Strays -/

lemma openBehind_concat (text : PlacedText) (mark : Place × Char) :
    openBehind (text ++ [mark]) = nextOpen (openBehind text) mark := by
  unfold openBehind
  rw [List.foldl_append]
  rfl

lemma isStray_concat {text : PlacedText} {mark : Place × Char} {q : Place} :
    IsStray (text ++ [mark]) q ↔
      IsStray text q ∨ (mark = (q, '\x7d') ∧ openBehind text = []) := by
  constructor
  · rintro ⟨before, after, hsplit, hopen⟩
    rcases List.eq_nil_or_concat' after with rfl | ⟨after, last, rfl⟩
    · obtain ⟨rfl, hmark⟩ := List.append_inj' hsplit rfl
      exact .inr ⟨(List.cons.inj hmark).1, hopen⟩
    · rw [← List.cons_append, ← List.append_assoc] at hsplit
      exact .inl ⟨before, after, (List.append_inj' hsplit rfl).1, hopen⟩
  · rintro (⟨before, after, rfl, hopen⟩ | ⟨rfl, hopen⟩)
    · exact ⟨before, after ++ [mark], by simp, hopen⟩
    · exact ⟨text, [], rfl, hopen⟩

lemma IsStray.mem {text : PlacedText} {q : Place} (h : IsStray text q) : (q, '\x7d') ∈ text := by
  obtain ⟨before, after, rfl, -⟩ := h
  simp

/-! ### Surplus -/

lemma surplus_nil : surplus [] = 0 := rfl

lemma surplus_append (text text' : PlacedText) :
    surplus (text ++ text') = surplus text + surplus text' := by
  unfold surplus
  rw [List.map_append, List.count_append, List.count_append]
  omega

lemma surplus_opening (p : Place) (text : PlacedText) :
    surplus ((p, '\x7b') :: text) = surplus text + 1 := by
  simp [surplus]
  omega

lemma surplus_closing (p : Place) (text : PlacedText) :
    surplus ((p, '\x7d') :: text) = surplus text + -1 := by
  simp [surplus]
  omega

lemma surplus_other {c : Char} (hopen : c ≠ '\x7b') (hclose : c ≠ '\x7d') (p : Place)
    (text : PlacedText) : surplus ((p, c) :: text) = surplus text + 0 := by
  simp [surplus, hopen, hclose]

/-! ### The brace a text starts with -/

/-- From a level on, where braces add to it and take from it, the text comes to level zero, over
allowed levels only. -/
def ComesToZero (allowed : Int → Prop) (level : Int) (text : PlacedText) : Prop :=
  level + surplus text = 0 ∧ ∀ front, front <+: text → allowed (level + surplus front)

lemma forall_prefix_cons {α : Type} {a : α} {rest : List α} {P : List α → Prop} :
    (∀ front, front <+: a :: rest → P front) ↔ P [] ∧ ∀ front, front <+: rest → P (a :: front) := by
  simp only [List.prefix_cons_iff]
  constructor
  · intro h
    exact ⟨h [] (.inl rfl), fun front hfront => h _ (.inr ⟨front, rfl, hfront⟩)⟩
  · rintro ⟨hnil, hcons⟩ front (rfl | ⟨tail, rfl, htail⟩)
    · exact hnil
    · exact hcons tail htail

lemma exists_split_cons {α : Type} {a b : α} {rest : List α} {P : List α → List α → Prop} :
    (∃ before after, a :: rest = before ++ b :: after ∧ P before after) ↔
      (a = b ∧ P [] rest) ∨ ∃ before after, rest = before ++ b :: after ∧ P (a :: before) after := by
  constructor
  · rintro ⟨before, after, hsplit, h⟩
    cases before with
    | nil =>
      obtain ⟨rfl, rfl⟩ := List.cons.inj hsplit
      exact .inl ⟨rfl, h⟩
    | cons first before =>
      obtain ⟨rfl, rfl⟩ := List.cons.inj hsplit
      exact .inr ⟨before, after, rfl, h⟩
  · rintro (⟨rfl, h⟩ | ⟨before, after, rfl, h⟩)
    · exact ⟨[], rest, rfl, h⟩
    · exact ⟨a :: before, after, rfl, h⟩

section Levels

variable {allowed : Int → Prop} {level : Int} {text : PlacedText}

lemma level_start (level : Int) : level + surplus [] = level := by
  rw [surplus_nil, Int.add_zero]

lemma comesToZero_nil : ComesToZero allowed level [] ↔ level = 0 ∧ allowed level := by
  simp [ComesToZero, level_start]

lemma not_comesToZero (hlevel : ¬ allowed level) : ¬ ComesToZero allowed level text := by
  rintro ⟨-, hkept⟩
  have hstart := hkept [] List.nil_prefix
  rw [level_start] at hstart
  exact hlevel hstart

/-- The level behind the first character is the one that the rest starts from. -/
lemma comesToZero_cons (allowed : Int → Prop) {mark : Place × Char} {w level : Int}
    (hw : ∀ rest, surplus (mark :: rest) = surplus rest + w) (hlevel : allowed level) :
    ComesToZero allowed level (mark :: text) ↔ ComesToZero allowed (level + w) text := by
  have hshift : ∀ rest, level + surplus (mark :: rest) = level + w + surplus rest := by
    intro rest
    rw [hw]
    omega
  unfold ComesToZero
  rw [forall_prefix_cons, level_start, and_iff_right hlevel]
  simp only [hshift]

end Levels

lemma not_mem_foldl_nextOpen {p : Place} {text : PlacedText} (hfresh : ∀ mark ∈ text, mark.1 ≠ p)
    {waiting : List Place} (h : p ∉ waiting) : p ∉ text.foldl nextOpen waiting := by
  induction text generalizing waiting with
  | nil => exact h
  | cons mark text ih =>
    obtain ⟨hmark, htext⟩ := List.forall_mem_cons.mp hfresh
    refine ih htext ?_
    unfold nextOpen
    split
    · simp [h, Ne.symm hmark]
    · split
      · exact fun hmem => h (List.mem_of_mem_tail hmem)
      · exact h

/-- A brace is on top of the stack again just when all that was opened above it is closed. -/
lemma head?_foldl_nextOpen {p : Place} {text : PlacedText} (hfresh : ∀ mark ∈ text, mark.1 ≠ p)
    {inner : List Place} (hinner : p ∉ inner) :
    (text.foldl nextOpen (inner ++ [p])).head? = some p ↔
      ComesToZero (0 ≤ ·) inner.length text := by
  induction text generalizing inner with
  | nil =>
    rw [comesToZero_nil, List.foldl_nil]
    cases inner with
    | nil => simp
    | cons o inner =>
      obtain ⟨ho, -⟩ := List.ne_and_not_mem_of_not_mem_cons hinner
      simp [Ne.symm ho]
      omega
  | cons mark text ih =>
    obtain ⟨o, c⟩ := mark
    obtain ⟨ho, htext⟩ := List.forall_mem_cons.mp hfresh
    have hlength : (0 : Int) ≤ inner.length := Int.natCast_nonneg _
    rw [List.foldl_cons]
    by_cases hopen : c = '\x7b'
    · subst hopen
      have hdeeper : p ∉ o :: inner := by
        simp [hinner, Ne.symm ho]
      rw [comesToZero_cons (0 ≤ ·) (surplus_opening o) hlength]
      exact ih htext hdeeper
    · by_cases hclose : c = '\x7d'
      · subst hclose
        rw [comesToZero_cons (0 ≤ ·) (surplus_closing o) hlength, nextOpen, if_neg hopen, if_pos rfl]
        cases inner with
        | nil =>
          have hgone : p ∉ text.foldl nextOpen [] := not_mem_foldl_nextOpen htext (by simp)
          refine iff_of_false ?_ (not_comesToZero (by simp))
          exact fun hhead => hgone (List.mem_of_head? hhead)
        | cons i inner =>
          have hback : ((i :: inner).length : Int) + -1 = inner.length := by
            rw [List.length_cons]
            omega
          rw [hback]
          exact ih htext (List.not_mem_of_not_mem_cons hinner)
      · rw [comesToZero_cons (0 ≤ ·) (surplus_other hopen hclose o) hlength, Int.add_zero, nextOpen, if_neg hopen,
          if_neg hclose]
        exact ih htext hinner

/-- The brace a text starts with is closed at the first place at which all is closed. -/
theorem closes_first_iff {p q : Place} {rest : PlacedText} (hfresh : ∀ mark ∈ rest, mark.1 ≠ p) :
    Closes ((p, '\x7b') :: rest) p q ↔
      ∃ inside after, rest = inside ++ (q, '\x7d') :: after ∧ ComesToZero (0 ≤ ·) 0 inside := by
  unfold Closes
  rw [exists_split_cons, or_iff_right (by simp)]
  refine exists_congr fun inside => exists_congr fun after => and_congr_right ?_
  rintro rfl
  have hinside : ∀ mark ∈ inside, mark.1 ≠ p := fun mark hmark =>
    hfresh mark (List.mem_append_left _ hmark)
  exact @head?_foldl_nextOpen p inside hinside [] List.not_mem_nil

end SlopLint.Scope
