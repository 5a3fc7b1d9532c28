import Mathlib.Tactic.Lemma
import SlopLint.Json.Reader

/-!
# Printed numbers

An integer is printed as its decimal digits, with a minus sign in front where it is negative. Only
zero starts with a zero, so a reader that takes no other leading zeros takes every printed number,
and its digits denote the number again.
-/

namespace SlopLint

lemma isDigit_of_mem_repr {n : Nat} {c : Char} (h : c ∈ n.repr.toList) : c.isDigit = true := by
  rw [Nat.toList_repr] at h
  exact Nat.isDigit_of_mem_toDigits (by decide) (by decide) h

lemma exists_repr_eq_cons (n : Nat) :
    ∃ c tail, n.repr.toList = c :: tail ∧ c.isDigit = true := by
  have hne : n.repr.toList ≠ [] := by
    rw [Nat.toList_repr]
    exact Nat.toDigits_ne_nil
  obtain ⟨c, tail, hrepr⟩ := List.exists_cons_of_ne_nil hne
  exact ⟨c, tail, hrepr, isDigit_of_mem_repr (by rw [hrepr]; exact List.mem_cons_self)⟩

lemma toList_toString (n : Int) :
    (toString n).toList = (if n < 0 then ['-'] else []) ++ n.natAbs.repr.toList := by
  rw [Int.toString_eq_repr, Int.repr_eq_if]
  by_cases h : n < 0
  · have habs : (-n).toNat = n.natAbs := by omega
    rw [if_neg (by omega), if_pos h, String.toList_append, habs]
    rfl
  · have habs : n.toNat = n.natAbs := by omega
    rw [if_pos (by omega), if_neg h, habs]
    rfl

/-- What is neither a digit nor a minus sign stands in no printed number. -/
lemma not_mem_toString {c : Char} (hdigit : c.isDigit = false) (hminus : c ≠ '-') (n : Int) :
    c ∉ (toString n).toList := by
  have hrepr : c ∉ n.natAbs.repr.toList := fun h => by
    rw [isDigit_of_mem_repr h] at hdigit
    cases hdigit
  rw [toList_toString, List.mem_append, not_or]
  refine ⟨?_, hrepr⟩
  split <;> simp [hminus]

lemma digitChar_ne_zero {n : Nat} (h : n < 10) (hpos : n ≠ 0) : n.digitChar ≠ '0' := by
  have hall : ∀ m < 10, m ≠ 0 → m.digitChar ≠ '0' := by decide
  exact hall n h hpos

lemma head?_repr_ne_zero {n : Nat} (h : n ≠ 0) : n.repr.toList.head? ≠ some '0' := by
  rw [Nat.toList_repr]
  induction n using Nat.strongRecOn with
  | ind n ih =>
    rw [Nat.toDigits_eq_if (by decide)]
    split
    · have hdigit := digitChar_ne_zero ‹_› h
      simpa using hdigit
    · obtain ⟨c, front, hfront⟩ := List.exists_cons_of_ne_nil (Nat.toDigits_ne_nil (n := n / 10))
      have hrest := ih (n / 10) (by omega) (by omega)
      rw [hfront] at hrest ⊢
      exact hrest

lemma natOfDigits_eq_ofDigitChars (ds : List Char) (n : Nat) :
    ds.foldl (fun n c => n * 10 + (c.toNat - 48)) n = Nat.ofDigitChars 10 ds n := by
  rw [Nat.ofDigitChars_eq_foldl]
  congr 1
  funext n c
  rw [Nat.mul_comm]
  rfl

/-- The digits of a number denote it. -/
lemma natOfDigits_repr (n : Nat) : Json.natOfDigits n.repr.toList = n := by
  rw [Json.natOfDigits, natOfDigits_eq_ofDigitChars, Nat.toList_repr, Nat.ofDigitChars_ten_toDigits]

end SlopLint
