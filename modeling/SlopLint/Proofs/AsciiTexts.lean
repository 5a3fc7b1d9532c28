import SlopLint.Proofs.LetterFolding
import SlopLint.Proofs.PatternForms

/-!
# Texts of ASCII

Among ASCII characters, letters whose case does not count are the same when their lower-case forms
are. So a word takes a text, case not counting, when both read the same in lower case.
-/

namespace SlopLint

open Text Pattern

/-- A text of ASCII characters only. -/
def Text.IsAscii (text : List Char) : Prop :=
  ∀ c ∈ text, c.toNat < 128

/-- What holds of the first 128 code points holds of every ASCII character. -/
lemma forall_ascii {p : Char → Prop} (h : ∀ n < 128, p (Char.ofNat n)) {c : Char}
    (hc : c.toNat < 128) : p c := by
  have hofNat := h c.toNat hc
  rwa [Char.ofNat_toNat] at hofNat

/-! ### Lower-case forms -/

section Lower

variable {c d : Char}

lemma lowerFrom_of_isAscii {text : List Char} (h : IsAscii text) (before : List Char) :
    lowerFrom before text = text.map lower := by
  induction text generalizing before with
  | nil => rfl
  | cons c text ih =>
    obtain ⟨hc, htext⟩ := List.forall_mem_cons.mp h
    have hdotted : (c == '\u0130') = false := by
      rw [beq_eq_false_iff_ne]
      rintro rfl
      exact absurd hc (by decide)
    have hsigma : (c == '\u03a3') = false := by
      rw [beq_eq_false_iff_ne]
      rintro rfl
      exact absurd hc (by decide)
    rw [lowerFrom, hdotted, hsigma, ih htext]
    rfl

lemma lowerText_of_isAscii {text : List Char} (h : IsAscii text) :
    lowerText text = text.map lower :=
  lowerFrom_of_isAscii h []

lemma lower_of_ascii (h : c.toNat < 128) : lower c = c.toLower :=
  if_pos h

lemma toNat_lower_lt (h : c.toNat < 128) : (lower c).toNat < 128 := by
  rw [lower_of_ascii h]
  exact forall_ascii (p := fun c => c.toLower.toNat < 128) (by decide) h

/-- The lower-case forms that count as that of an ASCII character are none of ASCII. -/
lemma variants_of_ascii : ∀ n < 128,
    ∀ m ∈ Folding.unicode.variants (Folding.unicode.lower n), 128 ≤ m := by
  decide

/-- Without a case, and before a lower-case form without one, a character stays as it is. -/
lemma toLower_of_uncased (hc : c.toNat < 128) (h : Folding.unicode.isCased c.toNat = false ∨
    Folding.unicode.isCased c.toLower.toNat = false) : c.toLower = c :=
  forall_ascii (p := fun c => Folding.unicode.isCased c.toNat = false ∨
    Folding.unicode.isCased c.toLower.toNat = false → c.toLower = c) (by decide) hc h

/-- ASCII characters are the same, case not counting, when their lower-case forms are. -/
theorem takesCode_iff_of_ascii (hc : c.toNat < 128) (hd : d.toNat < 128) :
    anyCaseMode.takesCode c.toNat d = true ↔ lower d = lower c := by
  have hlow : Folding.unicode.lower c.toNat = (lower c).toNat := by
    change onCode lower c.toNat = _
    rw [onCode, Char.ofNat_toNat, if_pos rfl]
  have htakes : anyCaseMode.takesCode c.toNat d =
      if Folding.unicode.isCased c.toNat = true then
        (lower d).toNat == Folding.unicode.lower c.toNat ||
          (Folding.unicode.variants (Folding.unicode.lower c.toNat)).contains (lower d).toNat
      else d.toNat == c.toNat := rfl
  rw [htakes]
  split
  · have hplain : (lower d).toNat ∉
        Folding.unicode.variants (Folding.unicode.lower c.toNat) := by
      intro hmem
      have hle := variants_of_ascii c.toNat hc _ hmem
      have hlt := toNat_lower_lt hd
      omega
    rw [Bool.or_eq_true, List.contains_iff_mem, or_iff_left hplain, beq_iff_eq, hlow,
      Char.toNat_inj]
  · next huncased =>
    rw [beq_iff_eq, Char.toNat_inj]
    constructor
    · rintro rfl
      rfl
    · intro hsame
      have huncased' : Folding.unicode.isCased c.toNat = false := Bool.eq_false_iff.mpr huncased
      rw [lower_of_ascii hc, lower_of_ascii hd, toLower_of_uncased hc (.inl huncased')] at hsame
      rw [← hsame] at huncased' ⊢
      exact (toLower_of_uncased hd (.inr huncased')).symm

end Lower

/-- A word takes a text, case not counting, when both read the same in lower case. -/
theorem spells_iff_of_isAscii {word text : List Char} (hword : IsAscii word)
    (htext : IsAscii text) : anyCaseMode.Spells word text ↔ lowerText text = lowerText word := by
  rw [lowerText_of_isAscii hword, lowerText_of_isAscii htext]
  unfold Mode.Spells
  induction word generalizing text with
  | nil => simp
  | cons c word ih =>
    cases text with
    | nil => simp
    | cons d text =>
      obtain ⟨hc, hword⟩ := List.forall_mem_cons.mp hword
      obtain ⟨hd, htext⟩ := List.forall_mem_cons.mp htext
      rw [List.forall₂_cons, takesCode_iff_of_ascii hc hd, ih hword htext, List.map_cons,
        List.map_cons, List.cons.injEq]

end SlopLint
