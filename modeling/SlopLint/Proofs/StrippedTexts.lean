import Mathlib.Data.List.Infix
import Mathlib.Data.List.TakeWhile
import Mathlib.Tactic.Lemma
import SlopLint.Text.Blank

/-!
# Stripped texts

Stripping leaves every part of a text whose ends are no blanks, and what is left of a text starts
where its leading blanks end.
-/

namespace SlopLint.Text

variable {text line : List Char}

lemma infix_stripLeft (hhead : ∃ c, text.head? = some c ∧ isBlank c = false) (h : text <:+: line) :
    text <:+: stripLeft line := by
  obtain ⟨c, hc, hblank⟩ := hhead
  induction line with
  | nil => exact h
  | cons d line ih =>
    rw [stripLeft, List.dropWhile_cons]
    split
    · next hd =>
      rcases List.infix_cons_iff.mp h with ⟨rest, hrest⟩ | h
      · cases text with
        | nil => cases hc
        | cons e text =>
          obtain ⟨rfl, -⟩ := List.cons.inj hrest
          obtain rfl := Option.some.inj hc
          rw [hblank] at hd
          cases hd
      · exact ih h
    · exact h

/-- A text whose ends are no blanks is left when a line is stripped. -/
lemma infix_strip (hhead : ∃ c, text.head? = some c ∧ isBlank c = false)
    (hlast : ∃ c, text.getLast? = some c ∧ isBlank c = false) (h : text <:+: line) :
    text <:+: strip line := by
  rw [strip, stripRight, ← List.reverse_infix, List.reverse_reverse]
  rw [← List.head?_reverse] at hlast
  exact infix_stripLeft hlast (List.reverse_infix.mpr (infix_stripLeft hhead h))

lemma takeWhile_append_stripLeft (line : List Char) :
    line.takeWhile isBlank ++ stripLeft line = line :=
  List.takeWhile_append_dropWhile

/-- What is left of a line is at its start when the leading blanks are dropped. -/
lemma strip_prefix_stripLeft (line : List Char) : strip line <+: stripLeft line := by
  have hsuffix : stripLeft (stripLeft line).reverse <:+ (stripLeft line).reverse :=
    List.dropWhile_suffix isBlank
  simpa [strip, stripRight] using hsuffix.reverse

end SlopLint.Text
