import Mathlib.Tactic.Lemma
import SlopLint.Proofs.PatternEnds

/-!
# The order of occurrences

A match never ends in front of its start, whatever a pattern looks at on the way. A search goes on
where the last match has ended, so the occurrences of a pattern come from left to right and none
of them reaches into the next.
-/

namespace SlopLint.Pattern

/-! ### What a match keeps -/

/-- A property of places that lasts when a character is passed and whatever the groups take. -/
structure Cursor.Lasting (p : Cursor → Prop) : Prop where
  forward : ∀ s, p s → p s.forward
  groups : ∀ s groups, p s → p { s with groups := groups }

/-- Ends have a property that the place has they are reached from. -/
def Ends.Keep (p : Cursor → Prop) (ends : Ends) : Prop :=
  ∀ s, p s → ∀ t ∈ ends s, p t

section Keeping

variable {p : Cursor → Prop}

lemma across_keeps (hp : Cursor.Lasting p) {same : Char → Char → Bool} {text : List Char}
    {s t : Cursor} (hs : p s) (h : Cursor.across same text s = some t) : p t := by
  induction text generalizing s with
  | nil =>
    cases h
    exact hs
  | cons c text ih =>
    unfold Cursor.across at h
    split at h
    · cases h
    · split at h
      · exact ih (hp.forward s hs) h
      · cases h

section Loops

variable {ends : Ends}

lemma times_keep (h : ends.Keep p) (n : Nat) : Ends.Keep p (ends.times n) := by
  induction n with
  | zero =>
    intro s hs t ht
    obtain rfl := List.mem_singleton.mp ht
    exact hs
  | succ n ih =>
    intro s hs t ht
    obtain ⟨r, hr, ht⟩ := List.mem_flatMap.mp ht
    exact ih r (h s hs r hr) t ht

/-- A further round keeps what is kept by itself and by the rounds that follow it. -/
lemma round_keeps {spares : Ends} (h : ends.Keep p) (hspares : spares.Keep p) {s t : Cursor}
    (hs : p s) (ht : t ∈ (ends s).flatMap fun r => if r.left < s.left then spares r else [r]) :
    p t := by
  obtain ⟨r, hr, ht⟩ := List.mem_flatMap.mp ht
  split at ht
  · exact hspares r (h s hs r hr) t ht
  · obtain rfl := List.mem_singleton.mp ht
    exact h s hs t hr

lemma greedy_keep (h : ends.Keep p) (n : Nat) : Ends.Keep p (ends.greedy n) := by
  induction n with
  | zero =>
    intro s hs t ht
    obtain rfl := List.mem_singleton.mp ht
    exact hs
  | succ n ih =>
    intro s hs t ht
    rcases List.mem_append.mp ht with ht | ht
    · exact round_keeps h ih hs ht
    · obtain rfl := List.mem_singleton.mp ht
      exact hs

lemma lazy_keep (h : ends.Keep p) (n : Nat) : Ends.Keep p (ends.lazy n) := by
  induction n with
  | zero =>
    intro s hs t ht
    obtain rfl := List.mem_singleton.mp ht
    exact hs
  | succ n ih =>
    intro s hs t ht
    rcases List.mem_cons.mp ht with rfl | ht
    · exact hs
    · exact round_keeps h ih hs ht

end Loops

section Committed

variable {node : Node}

lemma first_keeps (h : node.ends.Keep p) {s t : Cursor} (hs : p s)
    (ht : node.run.first s = some t) : p t := by
  rw [first_eq_head?] at ht
  exact h s hs t (List.mem_of_mem_head? ht)

lemma firsts_keep (h : node.ends.Keep p) {n : Nat} {s t : Cursor} (hs : p s)
    (ht : node.run.firsts n s = some t) : p t := by
  induction n generalizing s with
  | zero =>
    cases ht
    exact hs
  | succ n ih =>
    obtain ⟨r, hr, ht⟩ := Option.bind_eq_some_iff.mp ht
    exact ih (first_keeps h hs hr) ht

lemma rounds_keep (h : node.ends.Keep p) (n : Nat) {s : Cursor} (hs : p s) :
    p (node.run.rounds n s) := by
  induction n generalizing s with
  | zero => exact hs
  | succ n ih =>
    unfold Matcher.rounds
    split
    · exact hs
    · next t hfirst =>
      have ht := first_keeps h hs hfirst
      split
      · exact ih ht
      · exact ht

end Committed

/-- What lasts is kept from the place a node is matched at to the places it can end at. -/
theorem ends_keep (hp : Cursor.Lasting p) (node : Node) : node.ends.Keep p := by
  induction node with
  | empty =>
    intro s hs t ht
    obtain rfl := List.mem_singleton.mp ht
    exact hs
  | char mode test =>
    intro s hs t ht
    unfold Node.ends at ht
    split at ht
    · cases ht
    · split at ht
      · obtain rfl := List.mem_singleton.mp ht
        exact hp.forward s hs
      · cases ht
  | anchor place =>
    intro s hs t ht
    unfold Node.ends at ht
    split at ht
    · obtain rfl := List.mem_singleton.mp ht
      exact hs
    · cases ht
  | cat first second ih₁ ih₂ =>
    intro s hs t ht
    obtain ⟨r, hr, ht⟩ := List.mem_flatMap.mp ht
    exact ih₂ r (ih₁ s hs r hr) t ht
  | alt first second ih₁ ih₂ =>
    intro s hs t ht
    rcases List.mem_append.mp ht with ht | ht
    · exact ih₁ s hs t ht
    · exact ih₂ s hs t ht
  | capture group body ih =>
    intro s hs t ht
    obtain ⟨r, hr, rfl⟩ := List.mem_map.mp ht
    exact hp.groups r _ (ih s hs r hr)
  | loop greed min max body ih =>
    intro s hs t ht
    cases greed with
    | greedy =>
      obtain ⟨r, hr, ht⟩ := List.mem_flatMap.mp ht
      exact greedy_keep ih _ r (times_keep ih min s hs r hr) t ht
    | lazy =>
      obtain ⟨r, hr, ht⟩ := List.mem_flatMap.mp ht
      exact lazy_keep ih _ r (times_keep ih min s hs r hr) t ht
    | possessive =>
      obtain ⟨r, hr, rfl⟩ := Option.map_eq_some_iff.mp (Option.mem_toList.mp ht)
      exact rounds_keep ih _ (firsts_keep ih hs hr)
  | atomic body ih =>
    intro s hs t ht
    exact first_keeps ih hs (Option.mem_toList.mp ht)
  | ahead negated body _ =>
    -- an assertion stays where it is, however far it looks
    intro s hs t ht
    unfold Node.ends at ht
    split at ht
    · obtain rfl := List.mem_singleton.mp ht
      exact hp.groups s _ hs
    · obtain rfl := List.mem_singleton.mp ht
      exact hs
    · cases ht
  | behind negated width body _ =>
    intro s hs t ht
    unfold Node.ends at ht
    split at ht
    · obtain rfl := List.mem_singleton.mp ht
      exact hp.groups s _ hs
    · obtain rfl := List.mem_singleton.mp ht
      exact hs
    · cases ht
  | backref mode group =>
    intro s hs t ht
    unfold Node.ends at ht
    split at ht
    · cases ht
    · exact across_keeps hp hs (Option.mem_toList.mp ht)
  | conditional group yes no ih₁ ih₂ =>
    intro s hs t ht
    unfold Node.ends at ht
    split at ht
    · exact ih₁ s hs t ht
    · exact ih₂ s hs t ht

end Keeping

/-! ### Matches that do not go back -/

lemma left_forward_le (s : Cursor) : s.forward.left ≤ s.left := by
  unfold Cursor.forward
  split
  · exact Nat.le_refl _
  · exact Nat.sub_le _ _

/-- The ends of a node lie at or behind the place it is matched at. -/
theorem left_le_of_mem_ends {node : Node} {s t : Cursor} (h : t ∈ node.ends s) :
    t.left ≤ s.left := by
  have hlasting : Cursor.Lasting fun r => r.left ≤ s.left :=
    ⟨fun r hr => Nat.le_trans (left_forward_le r) hr, fun _ _ hr => hr⟩
  exact ends_keep hlasting node s (Nat.le_refl _) t h

/-! ### Searches that go on -/

lemma mem_ends_of_matchAt {node : Node} {moving : Bool} {s t : Cursor}
    (h : matchAt node moving s = some t) : t ∈ node.ends s := by
  unfold matchAt at h
  rw [run_goesThrough_ends] at h
  obtain ⟨r, hr, hrt⟩ := List.exists_of_findSome?_eq_some h
  split at hrt
  · cases hrt
  · cases hrt
    exact hr

/-- A match is found at or behind the place from which it is searched for. -/
lemma left_firstMatch_le {node : Node} {moving : Bool} {before after : List Char} {left : Nat}
    {s t : Cursor} (h : firstMatch node moving before after left = some (s, t)) :
    t.left ≤ s.left ∧ s.left ≤ left := by
  induction after generalizing moving before left with
  | nil =>
    unfold firstMatch at h
    dsimp only at h
    split at h
    · next hmatch =>
      cases h
      exact ⟨left_le_of_mem_ends (mem_ends_of_matchAt hmatch), Nat.le_refl _⟩
    · cases h
  | cons c after ih =>
    unfold firstMatch at h
    dsimp only at h
    split at h
    · next hmatch =>
      cases h
      exact ⟨left_le_of_mem_ends (mem_ends_of_matchAt hmatch), Nat.le_refl _⟩
    · obtain ⟨hle, hleft⟩ := ih h
      exact ⟨hle, Nat.le_trans hleft (Nat.sub_le _ _)⟩

lemma start_le_of_mem_occurrencesFrom {node : Node} {total fuel : Nat} {moving : Bool}
    {place : Cursor} {occurrence : Occurrence}
    (h : occurrence ∈ occurrencesFrom node total fuel moving place) :
    total - place.left ≤ occurrence.start := by
  induction fuel generalizing moving place with
  | zero => cases h
  | succ fuel ih =>
    unfold occurrencesFrom at h
    split at h
    · cases h
    · next hfirst =>
      obtain ⟨hle, hleft⟩ := left_firstMatch_le hfirst
      rcases List.mem_cons.mp h with rfl | h
      · dsimp only
        omega
      · have hstart := ih h
        omega

/-- None of the occurrences from a place on reaches into one that follows. -/
lemma pairwise_occurrencesFrom (node : Node) {total : Nat} (fuel : Nat) (moving : Bool)
    {place : Cursor} (hplace : place.left ≤ total) :
    (occurrencesFrom node total fuel moving place).Pairwise fun a b =>
      a.start + a.text.length ≤ b.start := by
  induction fuel generalizing moving place with
  | zero => exact .nil
  | succ fuel ih =>
    unfold occurrencesFrom
    split
    · exact .nil
    · next s t hfirst =>
      obtain ⟨hle, hleft⟩ := left_firstMatch_le hfirst
      refine List.pairwise_cons.mpr ⟨?_, ih _ (by omega)⟩
      intro occurrence hoccurrence
      have hstart := start_le_of_mem_occurrencesFrom hoccurrence
      dsimp only
      rw [List.length_take]
      omega

/-- The occurrences of a pattern come from left to right, and none reaches into the next. -/
theorem pairwise_occurrences (pattern : Pattern) (text : List Char) :
    (pattern.occurrences text).Pairwise fun a b => a.start + a.text.length ≤ b.start := by
  have hstart : (Cursor.atStart text).left ≤ text.length := Nat.le_refl _
  exact (pairwise_occurrencesFrom pattern.node _ false hstart).filter _

/-- No two occurrences start at the same place, as empty ones do not count. -/
theorem pairwise_start_occurrences (pattern : Pattern) (text : List Char) :
    (pattern.occurrences text).Pairwise fun a b => a.start < b.start := by
  refine (pairwise_occurrences pattern text).imp_of_mem ?_
  intro a b ha _ hab
  have hmoves : a.text ≠ [] := by simpa using (List.mem_filter.mp ha).2
  have hlength := List.length_pos_iff.mpr hmoves
  omega

end SlopLint.Pattern
