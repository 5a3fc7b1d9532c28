import Mathlib.Data.List.Infix
import Mathlib.Tactic.Lemma
import SlopLint.Text.Blank
import SlopLint.Text.Lines

/-!
# Texts put together

Lines that hold no line break are given back when the text they are joined to is cut. A literal
that stands in two texts put together stands in one of them, unless it reaches over the seam, which
a text behind the seam can rule out by how it starts.
-/

namespace SlopLint.Text

/-! ### Joined lines -/

/-- The text of lines, with a line feed between each two. -/
def joinLines (lines : List Line) : String :=
  String.ofList (List.intercalate ['\n'] lines)

/-- A text is cut as the library cuts lists. -/
lemma splitOnChar_eq_splitOn (separator : Char) (text : List Char) :
    splitOnChar separator text = text.splitOn separator := by
  induction text with
  | nil => simp [splitOnChar]
  | cons c rest ih =>
    rw [splitOnChar, ih, List.splitOn_eq_splitOnP, List.splitOn_eq_splitOnP,
      List.splitOnP_cons_eq_if_modifyHead]
    split
    · rfl
    · cases hrest : List.splitOnP (· == separator) rest with
      | nil => exact absurd hrest (List.splitOnP_ne_nil _ _)
      | cons piece pieces => rfl

lemma dropTrailingReturn_of_not_mem {line : Line} (h : '\r' ∉ line) :
    dropTrailingReturn line = line := by
  unfold dropTrailingReturn
  rw [if_neg]
  intro hlast
  exact h (List.mem_of_getLast? (eq_of_beq hlast))

/-- Lines without line breaks are those of their text. -/
theorem lines_joinLines {lines : List Line} (hne : lines ≠ [])
    (h : ∀ line ∈ lines, '\n' ∉ line ∧ '\r' ∉ line) :
    Text.lines (joinLines lines).toList = lines := by
  rw [Text.lines, joinLines, String.toList_ofList, splitOnChar_eq_splitOn,
    List.splitOn_intercalate _ (fun line hline => (h line hline).1) hne]
  conv_rhs => rw [← List.map_id lines]
  exact List.map_congr_left fun line hline => dropTrailingReturn_of_not_mem (h line hline).2

/-! ### Literals in texts put together -/

/-- No part of a literal that could reach over a seam is what the text behind it starts with. -/
def Seamless (needle text : List Char) : Prop :=
  ∀ i < needle.length, 0 < i → (needle.drop i).isPrefixOf text = false

instance (needle text : List Char) : Decidable (Seamless needle text) :=
  inferInstanceAs (Decidable (∀ i < needle.length, 0 < i → (needle.drop i).isPrefixOf text = false))

lemma occursIn_iff {needle text : List Char} : occursIn needle text = true ↔ needle <:+: text := by
  induction text with
  | nil => simp [occursIn]
  | cons c rest ih => simp [occursIn, ih, List.infix_cons_iff]

lemma occursIn_append {needle text : List Char} (before : List Char) (h : Seamless needle text) :
    occursIn needle (before ++ text) = (occursIn needle before || occursIn needle text) := by
  induction before with
  | nil =>
    have hempty : needle <:+: [] → needle <:+: text := fun h =>
      List.eq_nil_of_infix_nil h ▸ List.nil_infix
    rw [List.nil_append, Bool.eq_iff_iff, Bool.or_eq_true, occursIn_iff, occursIn_iff]
    exact ⟨.inr, fun h => h.elim hempty id⟩
  | cons c before ih =>
    have hfirst : needle.isPrefixOf (c :: (before ++ text)) = true →
        needle.isPrefixOf (c :: before) = true := by
      intro hstarts
      rw [List.isPrefixOf_iff_prefix] at hstarts ⊢
      rcases List.prefix_or_prefix_of_prefix hstarts (List.prefix_append (c :: before) text) with
        hshort | ⟨rest, hrest⟩
      · exact hshort
      · -- The rest of the literal would be what the text behind the seam starts with.
        cases rest with
        | nil => rw [← hrest, List.append_nil]
        | cons d rest =>
          have hover := h (c :: before).length (by rw [← hrest]; simp) (by simp)
          rw [← hrest, List.drop_left] at hover
          rw [← hrest, ← List.cons_append, List.prefix_append_right_inj,
            ← List.isPrefixOf_iff_prefix] at hstarts
          rw [hstarts] at hover
          cases hover
    have hback : needle.isPrefixOf (c :: before) = true →
        needle.isPrefixOf (c :: (before ++ text)) = true := by
      intro hstarts
      rw [List.isPrefixOf_iff_prefix] at hstarts ⊢
      exact hstarts.trans (List.prefix_append (c :: before) text)
    rw [List.cons_append, occursIn, occursIn, ih, Bool.or_assoc,
      Bool.eq_iff_iff.mpr ⟨hfirst, hback⟩]

end SlopLint.Text
