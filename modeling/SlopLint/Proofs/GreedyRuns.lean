import Mathlib.Tactic.Lemma
import SlopLint.Proofs.PatternLanguage

/-!
# Greedy runs

A greedy repetition of a character tries the longest run first and gives back one character at a
time. So what follows it is found behind the longest run that leaves it something to take.
-/

namespace SlopLint.Pattern

section Star

variable {mode : Mode} {test : CharTest} {before : List Char} {groups : List (Nat × Captured)}

lemma ends_star_nil :
    (Node.loop .greedy 0 none (.char mode test)).ends (.between before [] groups) =
      [.between before [] groups] :=
  rfl

/-- The places with one more character come first. -/
lemma ends_star_cons (c : Char) (unread : List Char) :
    (Node.loop .greedy 0 none (.char mode test)).ends (.between before (c :: unread) groups) =
      (if test.passes mode c then
        (Node.loop .greedy 0 none (.char mode test)).ends (.between (c :: before) unread groups)
      else []) ++ [.between before (c :: unread) groups] := by
  have hrounds : ∀ (before unread : List Char),
      (Node.loop .greedy 0 none (.char mode test)).ends (.between before unread groups) =
        (Node.char mode test).ends.greedy (unread.length + 1) (.between before unread groups) :=
    fun _ _ => List.flatMap_singleton _ _
  have hround : (Node.char mode test).ends (.between before (c :: unread) groups) =
      if test.passes mode c then [.between (c :: before) unread groups] else [] := rfl
  have hfewer : (Cursor.between (c :: before) unread groups).left <
      (Cursor.between before (c :: unread) groups).left := Nat.lt_succ_self _
  rw [hrounds, hrounds]
  conv => lhs; unfold Ends.greedy
  rw [hround]
  by_cases hpasses : test.passes mode c = true
  · rw [if_pos hpasses, if_pos hpasses, List.flatMap_singleton, if_pos hfewer]
    rfl
  · rw [if_neg hpasses, if_neg hpasses]
    rfl

lemma flatMap_star_eq_nil {next : Ends} {unread : List Char}
    (hnone : ∀ run rest, unread = run ++ rest → (∀ c ∈ run, test.passes mode c = true) →
      next (.between (run.reverse ++ before) rest groups) = []) :
    ((Node.loop .greedy 0 none (.char mode test)).ends (.between before unread groups)).flatMap
      next = [] := by
  induction unread generalizing before with
  | nil =>
    rw [ends_star_nil, List.flatMap_singleton]
    exact hnone [] [] rfl nofun
  | cons c unread ih =>
    rw [ends_star_cons, List.flatMap_append, List.flatMap_singleton]
    have hhere : next (.between before (c :: unread) groups) = [] := hnone [] _ rfl nofun
    rw [hhere, List.append_nil]
    split
    · next hpasses =>
      refine ih fun run rest hunread hrun => ?_
      have hmore := hnone (c :: run) rest (by rw [hunread]; rfl)
        (List.forall_mem_cons.mpr ⟨hpasses, hrun⟩)
      rwa [List.reverse_cons, List.append_assoc] at hmore
    · rfl

/-- What follows a greedy repetition is first found behind its longest run that allows for it. -/
lemma head?_star {next : Ends} {run rest : List Char} (hrun : ∀ c ∈ run, test.passes mode c = true)
    (hnext : next (.between (run.reverse ++ before) rest groups) ≠ [])
    (hlonger : ∀ c more rest', rest = c :: more ++ rest' →
      (∀ d ∈ c :: more, test.passes mode d = true) →
      next (.between ((run ++ c :: more).reverse ++ before) rest' groups) = []) :
    (((Node.loop .greedy 0 none (.char mode test)).ends
        (.between before (run ++ rest) groups)).flatMap next).head? =
      (next (.between (run.reverse ++ before) rest groups)).head? := by
  induction run generalizing before with
  | nil =>
    cases rest with
    | nil =>
      rw [List.nil_append, ends_star_nil, List.flatMap_singleton]
      rfl
    | cons c rest =>
      rw [List.nil_append, ends_star_cons, List.flatMap_append, List.flatMap_singleton]
      -- the longer runs are tried first, in vain
      have hnone : ((if test.passes mode c = true then
          (Node.loop .greedy 0 none (.char mode test)).ends (.between (c :: before) rest groups)
        else []).flatMap next) = [] := by
        split
        · next hpasses =>
          refine flatMap_star_eq_nil fun more rest' hrest hmore => ?_
          have hlater := hlonger c more rest' (by rw [hrest]; rfl)
            (List.forall_mem_cons.mpr ⟨hpasses, hmore⟩)
          rwa [List.nil_append, List.reverse_cons, List.append_assoc] at hlater
        · rfl
      rw [hnone]
      rfl
  | cons c run ih =>
    obtain ⟨hpasses, hrun⟩ := List.forall_mem_cons.mp hrun
    rw [List.reverse_cons, List.append_assoc, List.singleton_append] at hnext ⊢
    rw [List.cons_append, ends_star_cons, if_pos hpasses, List.flatMap_append, List.head?_append]
    have hhead := ih hrun hnext fun d more rest' hrest hmore => by
      have hlater := hlonger d more rest' hrest hmore
      rwa [List.cons_append, List.reverse_cons, List.append_assoc] at hlater
    rw [hhead]
    obtain ⟨t, others, hends⟩ := List.exists_cons_of_ne_nil hnext
    rw [hends]
    rfl

end Star

end SlopLint.Pattern
