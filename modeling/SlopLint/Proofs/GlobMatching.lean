import Mathlib.Data.List.Basic
import Mathlib.Tactic.Lemma
import SlopLint.Glob

/-!
# Matching of glob patterns

What a pattern accepts, by the characters it is written with: a star goes over any text and a
question mark over any character, slashes included, brackets stand for a set, and everything else
for itself. A set without an exclamation mark in front holds the characters between the brackets,
and those from one end of a range to the other.
-/

namespace SlopLint.Glob

/-! ### Patterns -/

/-- The texts that a pattern accepts as a whole. -/
inductive Accepts : List Char → List Char → Prop
  | nil : Accepts [] []
  | star {pattern rest : List Char} (skipped : List Char) (hrest : Accepts pattern rest) :
      Accepts ('*' :: pattern) (skipped ++ rest)
  | any {pattern rest : List Char} (c : Char) (hrest : Accepts pattern rest) :
      Accepts ('?' :: pattern) (c :: rest)
  | oneOf {pattern body after rest : List Char} {c : Char}
      (hset : splitSet pattern = some (body, after)) (htakes : takes c (setPart body) = true)
      (hrest : Accepts after rest) : Accepts ('[' :: pattern) (c :: rest)
  | unclosed {pattern rest : List Char} (hset : splitSet pattern = none)
      (hrest : Accepts pattern rest) : Accepts ('[' :: pattern) ('[' :: rest)
  | char {pattern rest : List Char} {c : Char} (hplain : c ∉ ['*', '?', '['])
      (hrest : Accepts pattern rest) : Accepts (c :: pattern) (c :: rest)

section Front

variable {pattern text : List Char}

lemma accepts_nil_iff : Accepts [] text ↔ text = [] := by
  constructor
  · rintro ⟨⟩
    rfl
  · rintro rfl
    exact .nil

lemma accepts_star_iff : Accepts ('*' :: pattern) text ↔
    ∃ skipped rest, text = skipped ++ rest ∧ Accepts pattern rest := by
  constructor
  · intro h
    cases h with
    | star skipped hrest => exact ⟨skipped, _, rfl, hrest⟩
    | char hplain _ => exact absurd hplain (by decide)
  · rintro ⟨skipped, rest, rfl, hrest⟩
    exact .star skipped hrest

lemma accepts_any_iff : Accepts ('?' :: pattern) text ↔
    ∃ c rest, text = c :: rest ∧ Accepts pattern rest := by
  constructor
  · intro h
    cases h with
    | any c hrest => exact ⟨c, _, rfl, hrest⟩
    | char hplain _ => exact absurd hplain (by decide)
  · rintro ⟨c, rest, rfl, hrest⟩
    exact .any c hrest

lemma accepts_oneOf_iff {body after : List Char} (hset : splitSet pattern = some (body, after)) :
    Accepts ('[' :: pattern) text ↔
      ∃ c rest, text = c :: rest ∧ takes c (setPart body) = true ∧ Accepts after rest := by
  constructor
  · intro h
    cases h with
    | oneOf hother htakes hrest =>
      cases hset.symm.trans hother
      exact ⟨_, _, rfl, htakes, hrest⟩
    | unclosed hnone _ => cases hset.symm.trans hnone
    | char hplain _ => exact absurd hplain (by decide)
  · rintro ⟨c, rest, rfl, htakes, hrest⟩
    exact .oneOf hset htakes hrest

lemma accepts_unclosed_iff (hset : splitSet pattern = none) :
    Accepts ('[' :: pattern) text ↔ ∃ rest, text = '[' :: rest ∧ Accepts pattern rest := by
  constructor
  · intro h
    cases h with
    | oneOf hsome _ _ => cases hset.symm.trans hsome
    | unclosed _ hrest => exact ⟨_, rfl, hrest⟩
    | char hplain _ => exact absurd hplain (by decide)
  · rintro ⟨rest, rfl, hrest⟩
    exact .unclosed hset hrest

lemma accepts_char_iff {c : Char} (hplain : c ∉ ['*', '?', '[']) :
    Accepts (c :: pattern) text ↔ ∃ rest, text = c :: rest ∧ Accepts pattern rest := by
  constructor
  · intro h
    cases h with
    | char _ hrest => exact ⟨_, rfl, hrest⟩
    | _ => exact absurd hplain (by decide)
  · rintro ⟨rest, rfl, hrest⟩
    exact .char hplain hrest

end Front

/-! ### Running patterns -/

lemma someEnd_iff {matchesRest : List Char → Bool} {text : List Char} :
    someEnd matchesRest text = true ↔
      ∃ skipped rest, text = skipped ++ rest ∧ matchesRest rest = true := by
  induction text with
  | nil =>
    rw [someEnd]
    constructor
    · exact fun h => ⟨[], [], rfl, h⟩
    · rintro ⟨skipped, rest, htext, h⟩
      obtain ⟨-, rfl⟩ := List.append_eq_nil_iff.mp htext.symm
      exact h
  | cons c text ih =>
    rw [someEnd, Bool.or_eq_true, ih]
    constructor
    · rintro (h | ⟨skipped, rest, rfl, h⟩)
      · exact ⟨[], c :: text, rfl, h⟩
      · exact ⟨c :: skipped, rest, rfl, h⟩
    · rintro ⟨skipped, rest, htext, h⟩
      cases skipped with
      | nil => exact .inl (by rwa [htext])
      | cons d skipped =>
        obtain ⟨rfl, rfl⟩ := List.cons.inj htext
        exact .inr ⟨skipped, rest, rfl, h⟩

/-- A part other than a star goes over one character that it takes. -/
lemma matchParts_cons_iff {part : GlobPart} {parts : List GlobPart} {text : List Char}
    (hstar : part ≠ .star) : matchParts (part :: parts) text = true ↔
      ∃ c rest, text = c :: rest ∧ takes c part = true ∧ matchParts parts rest = true := by
  cases text with
  | nil => cases part <;> simp_all [matchParts]
  | cons c text => cases part <;> simp_all [matchParts]

lemma matchParts_char_iff {c : Char} {parts : List GlobPart} {text : List Char} :
    matchParts (.char c :: parts) text = true ↔
      ∃ rest, text = c :: rest ∧ matchParts parts rest = true := by
  rw [matchParts_cons_iff (by simp)]
  constructor
  · rintro ⟨d, rest, rfl, hd, hrest⟩
    rw [eq_of_beq hd]
    exact ⟨rest, rfl, hrest⟩
  · rintro ⟨rest, rfl, hrest⟩
    exact ⟨c, rest, rfl, beq_self_eq_true c, hrest⟩

lemma setPart_ne_star (body : List Char) : setPart body ≠ .star := by
  have hset : ∀ chunks, setOf chunks ≠ .star := by
    intro chunks
    unfold setOf
    split <;> simp
  exact hset _

/-- What is behind a set is shorter than what was behind its opening bracket. -/
lemma length_of_splitSet {text body after : List Char} (h : splitSet text = some (body, after)) :
    after.length < text.length := by
  have hclosed : ∀ rest : List Char, ∀ bracket, rest.dropWhile (· != ']') = bracket :: after →
      after.length < rest.length := by
    intro rest bracket hrest
    have hsuffix := (List.dropWhile_suffix (l := rest) (· != ']')).length_le
    rw [hrest, List.length_cons] at hsuffix
    exact hsuffix
  unfold splitSet at h
  dsimp only at h
  split at h
  · cases h
  · rename_i bracket rest hrest
    obtain ⟨-, rfl⟩ := Prod.mk.inj (Option.some.inj h)
    refine Nat.lt_of_lt_of_le (hclosed _ _ hrest) ?_
    -- Neither the mark in front nor the bracket behind it has to be there.
    split
    · rename_i behind hbracket
      dsimp only at hbracket ⊢
      have hlength := congrArg List.length hbracket
      rw [List.length_cons] at hlength
      split at hlength
      · simp only [List.length_cons] at hlength ⊢
        omega
      · simp only at hlength
        omega
    · dsimp only
      split
      · exact Nat.le_succ _
      · exact Nat.le_refl _

/-- The parts that a pattern is read as match what it accepts. -/
lemma matchParts_partsFrom {fuel : Nat} {pattern text : List Char} (hfuel : pattern.length ≤ fuel) :
    matchParts (partsFrom fuel pattern) text = true ↔ Accepts pattern text := by
  induction fuel generalizing pattern text with
  | zero =>
    obtain rfl := List.eq_nil_of_length_eq_zero (Nat.le_zero.mp hfuel)
    rw [partsFrom, matchParts, List.isEmpty_iff, accepts_nil_iff]
  | succ fuel ih =>
    cases pattern with
    | nil => rw [partsFrom, matchParts, List.isEmpty_iff, accepts_nil_iff]
    | cons c pattern =>
      rw [List.length_cons, Nat.succ_le_succ_iff] at hfuel
      rw [partsFrom]
      split
      case isTrue hstar =>
        subst hstar
        rw [matchParts, someEnd_iff, accepts_star_iff]
        simp only [ih hfuel]
      split
      case isTrue hany =>
        subst hany
        rw [matchParts_cons_iff (by simp), accepts_any_iff]
        simp only [takes, true_and, ih hfuel]
      split
      case isTrue hbracket =>
        subst hbracket
        split
        · rename_i body after hset
          have hshort := length_of_splitSet hset
          rw [matchParts_cons_iff (setPart_ne_star _), accepts_oneOf_iff hset]
          simp only [ih (show after.length ≤ fuel by omega)]
        · rename_i hset
          rw [matchParts_char_iff, accepts_unclosed_iff hset]
          simp only [ih hfuel]
      case isFalse hstar hany hbracket =>
        rw [matchParts_char_iff, accepts_char_iff (by simp [hstar, hany, hbracket])]
        simp only [ih hfuel]

/-- Running the parts of a pattern decides whether it accepts a text. -/
theorem accepts_iff {pattern text : String} :
    accepts pattern text = true ↔ Accepts pattern.toList text.toList :=
  matchParts_partsFrom (Nat.le_of_eq String.length_toList)

end SlopLint.Glob
