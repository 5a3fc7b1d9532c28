import Mathlib
import SlopLint.Pattern.Folding

/-!
# Case-blind letters

Where case does not count, a Latin letter of a pattern takes a few characters beyond ASCII: the
dotted capital I, the dotless small one, the long s and the Kelvin sign. All that it takes are
characters of words.
-/

namespace SlopLint

open Text Pattern

/-! ### Looking up intervals -/

lemma mem_of_find?_build {α : Type} {fuel n lo : Nat} {value : α}
    {intervals : List (Nat × Nat × α)}
    (h : (IntervalMap.build fuel intervals).find? n = some (lo, value)) :
    ∃ hi, (lo, hi, value) ∈ intervals ∧ lo ≤ n ∧ n ≤ hi := by
  induction fuel generalizing intervals with
  | zero => cases h
  | succ fuel ih =>
    unfold IntervalMap.build at h
    split at h
    · cases h
    · next lo' hi' value' after hdrop =>
      have hhere : (lo', hi', value') ∈ intervals := by
        apply List.mem_of_mem_drop (i := intervals.length / 2)
        rw [hdrop]
        exact List.mem_cons_self
      unfold IntervalMap.find? at h
      split at h
      · obtain ⟨hi, hmem, hbounds⟩ := ih h
        exact ⟨hi, List.mem_of_mem_take hmem, hbounds⟩
      · split at h
        · obtain ⟨hi, hmem, hbounds⟩ := ih h
          refine ⟨hi, List.mem_of_mem_drop (i := intervals.length / 2) ?_, hbounds⟩
          rw [hdrop]
          exact List.mem_cons_of_mem _ hmem
        · cases h
          exact ⟨hi', hhere, by omega, by omega⟩

/-! ### Lower-case forms -/

lemma toNat_ofNat (n : Nat) : (Char.ofNat n).toNat = n ∨ (Char.ofNat n).toNat = 0 := by
  unfold Char.ofNat
  split
  · exact .inl rfl
  · exact .inr rfl

/-- Beyond ASCII a character is its own lower-case form, or is moved by a run that holds it. -/
lemma lower_of_ge {c : Char} (h : 128 ≤ c.toNat) :
    lower c = c ∨ ∃ first last step image, (first, last, step, image) ∈ lowerRuns ∧
      first ≤ c.toNat ∧ c.toNat ≤ last ∧ lower c = Char.ofNat (image + (c.toNat - first)) := by
  unfold lower moveBy
  rw [if_neg (by omega)]
  cases hfind : lowerMap.find? c.toNat with
  | none => exact .inl rfl
  | some found =>
    obtain ⟨first, step, image⟩ := found
    obtain ⟨last, hmem, hfirst, hlast⟩ := mem_of_find?_build hfind
    dsimp only
    split
    · exact .inr ⟨first, last, step, image, hmem, hfirst, hlast, rfl⟩
    · exact .inl rfl

/-- The code points that a Latin letter is compared with: the small letters, and the two other
small characters with the upper-case form of one. -/
def isLatinLow (n : Nat) : Bool :=
  (97 ≤ n && n ≤ 122) || n == 305 || n == 383

/-- Only the dotted capital I and the Kelvin sign are moved to a Latin letter. -/
lemma image_of_mem_lowerRuns : ∀ run ∈ lowerRuns,
    run = (304, 304, 1, 105) ∨ run = (8490, 8490, 1, 107) ∨
      (122 < run.2.2.2 ∧ (run.2.2.2 + (run.2.1 - run.1) < 305 ∨ 305 < run.2.2.2) ∧
        (run.2.2.2 + (run.2.1 - run.1) < 383 ∨ 383 < run.2.2.2)) := by
  decide +kernel

lemma isWord_of_ascii : ∀ n < 128, isLatinLow (Char.ofNat n).toLower.toNat = true →
    isWord (Char.ofNat n) = true := by
  decide

lemma isWord_of_beyond : ∀ n ∈ [304, 305, 383, 8490], isWord (Char.ofNat n) = true := by
  decide +kernel

lemma isWord_of_latinLow {c : Char} (h : isLatinLow (lower c).toNat = true) : isWord c = true := by
  have hself : c = Char.ofNat c.toNat := (Char.ofNat_toNat c).symm
  by_cases hascii : c.toNat < 128
  · rw [lower, if_pos hascii] at h
    rw [hself] at h ⊢
    exact isWord_of_ascii c.toNat hascii h
  · obtain hsame | ⟨first, last, step, image, hmem, hfirst, hlast, hmoved⟩ :=
      lower_of_ge (Nat.le_of_not_lt hascii)
    · rw [hsame] at h
      simp only [isLatinLow, Bool.or_eq_true, Bool.and_eq_true, decide_eq_true_eq, beq_iff_eq] at h
      have hcode : c.toNat = 305 ∨ c.toNat = 383 := by omega
      rw [hself]
      exact isWord_of_beyond c.toNat (by simp only [List.mem_cons]; omega)
    · have hcode : c.toNat = 304 ∨ c.toNat = 8490 := by
        rw [hmoved] at h
        simp only [isLatinLow, Bool.or_eq_true, Bool.and_eq_true, decide_eq_true_eq,
          beq_iff_eq] at h
        have hrun := image_of_mem_lowerRuns _ hmem
        simp only [Prod.mk.injEq] at hrun
        rcases toNat_ofNat (image + (c.toNat - first)) with hn | hn <;> omega
      rw [hself]
      exact isWord_of_beyond c.toNat (by simp only [List.mem_cons]; omega)

/-! ### What a letter takes -/

/-- Case-blind comparison over all of Unicode. -/
def anyCaseMode : Mode := ⟨true, false⟩

lemma folding_of_isAlpha : ∀ n < 128, (Char.ofNat n).isAlpha = true →
    Folding.unicode.isCased n = true ∧ isLatinLow (Folding.unicode.lower n) = true ∧
      ∀ m ∈ Folding.unicode.variants (Folding.unicode.lower n), isLatinLow m = true := by
  decide

lemma toNat_lt_of_isAlpha {c : Char} (h : c.isAlpha = true) : c.toNat < 128 := by
  simp only [Char.isAlpha, Char.isUpper, Char.isLower, Bool.or_eq_true, Bool.and_eq_true,
    decide_eq_true_eq, UInt32.le_iff_toNat_le, ge_iff_le] at h
  change c.val.toNat < 128
  rcases h with ⟨_, h⟩ | ⟨_, h⟩
  · exact Nat.lt_of_le_of_lt h (by decide)
  · exact Nat.lt_of_le_of_lt h (by decide)

/-- What a Latin letter takes, case not counting, is a character of a word. -/
theorem isWord_of_takesCode {letter c : Char} (hletter : letter.isAlpha = true)
    (h : anyCaseMode.takesCode letter.toNat c = true) : isWord c = true := by
  have hascii := toNat_lt_of_isAlpha hletter
  rw [← Char.ofNat_toNat letter] at hletter
  obtain ⟨hcased, hlow, hvariants⟩ := folding_of_isAlpha letter.toNat hascii hletter
  have hcase : (anyCaseMode.ignoreCase && Folding.unicode.isCased letter.toNat) = true := hcased
  have hfolding : anyCaseMode.folding = Folding.unicode := rfl
  have hlower : anyCaseMode.lower c = lower c := rfl
  unfold Mode.takesCode at h
  rw [hfolding, hlower, if_pos hcase] at h
  simp only [Bool.or_eq_true, beq_iff_eq, List.contains_iff_mem] at h
  apply isWord_of_latinLow
  rcases h with h | h
  · rw [h]
    exact hlow
  · exact hvariants _ h

end SlopLint
