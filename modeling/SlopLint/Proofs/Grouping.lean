import Mathlib
import SlopLint.Consolidation

/-!
# Groups of values

Grouping has a closed form: the keys are those of the values without repetition, in the order of
their first appearance, and every key keeps its own values in their order. Nothing is lost and
nothing is counted twice, so that sums over the groups are sums over the values.
-/

namespace SlopLint

/-! ### First appearances -/

section FirstAppearances

variable {α β : Type} [BEq α] [LawfulBEq α] [BEq β] [LawfulBEq β]

lemma eraseDups_concat (values : List α) (value : α) :
    (values ++ [value]).eraseDups =
      if value ∈ values then values.eraseDups else values.eraseDups ++ [value] := by
  rw [List.eraseDups_append]
  by_cases h : value ∈ values <;> simp [List.removeAll, List.eraseDups_cons, h]

lemma nodup_eraseDups (values : List α) : values.eraseDups.Nodup := by
  induction values using List.reverseRecOn with
  | nil => simp
  | append_singleton values value ih =>
    rw [eraseDups_concat]
    by_cases h : value ∈ values
    · simpa [h] using ih
    · rw [if_neg h, List.nodup_append]
      refine ⟨ih, by simp, ?_⟩
      intro a ha b hb hab
      rw [List.mem_singleton] at hb
      rw [hab, hb, List.mem_eraseDups] at ha
      exact h ha

/-- Without its repetitions a list is in the order of first appearance. -/
lemma pairwise_idxOf_eraseDups (values : List α) :
    values.eraseDups.Pairwise fun a b => values.idxOf a < values.idxOf b := by
  induction values using List.reverseRecOn with
  | nil => simp
  | append_singleton values value ih =>
    have hindex : ∀ a ∈ values.eraseDups, (values ++ [value]).idxOf a = values.idxOf a :=
      fun a ha => List.idxOf_append_of_mem (List.mem_eraseDups.mp ha)
    have hbefore : values.eraseDups.Pairwise fun a b =>
        (values ++ [value]).idxOf a < (values ++ [value]).idxOf b := by
      refine ih.imp_of_mem ?_
      intro a b ha hb hab
      rwa [hindex a ha, hindex b hb]
    rw [eraseDups_concat]
    by_cases h : value ∈ values
    · rwa [if_pos h]
    · rw [if_neg h, List.pairwise_append]
      refine ⟨hbefore, by simp, ?_⟩
      intro a ha b hb
      rw [List.mem_singleton.mp hb, hindex a ha, List.idxOf_append_of_notMem h]
      have hlt := List.idxOf_lt_length_of_mem (List.mem_eraseDups.mp ha)
      omega

lemma filter_eraseDups (p : α → Bool) (values : List α) :
    values.eraseDups.filter p = (values.filter p).eraseDups := by
  induction values using List.reverseRecOn with
  | nil => simp
  | append_singleton values value ih =>
    rw [eraseDups_concat, List.filter_append]
    by_cases h : value ∈ values <;> by_cases hp : p value
    · simp [h, hp, eraseDups_concat, ih]
    · simp [h, hp, ih]
    · simp [h, hp, eraseDups_concat, ih]
    · simp [h, hp, ih]

/-- What a function of the values shows first is decided by the first appearances of the
values. -/
lemma eraseDups_map_eraseDups (f : α → β) (values : List α) :
    (values.eraseDups.map f).eraseDups = (values.map f).eraseDups := by
  induction values using List.reverseRecOn with
  | nil => simp
  | append_singleton values value ih =>
    rw [eraseDups_concat, List.map_append, List.map_singleton, eraseDups_concat]
    by_cases h : value ∈ values
    · have hf : f value ∈ values.map f := List.mem_map_of_mem h
      rw [if_pos h, if_pos hf, ih]
    · have hmem : f value ∈ values.eraseDups.map f ↔ f value ∈ values.map f := by
        simp only [List.mem_map, List.mem_eraseDups]
      rw [if_neg h, List.map_append, List.map_singleton, eraseDups_concat, ih]
      simp only [hmem]

/-- A function that tells the values apart may be applied before or after repetitions are
dropped. -/
lemma eraseDups_map_of_injOn (f : α → β) (values : List α)
    (hf : ∀ a ∈ values, ∀ b ∈ values, f a = f b → a = b) :
    (values.map f).eraseDups = values.eraseDups.map f := by
  induction values using List.reverseRecOn with
  | nil => simp
  | append_singleton values value ih =>
    have hprefix := ih fun a ha b hb => hf a (by simp [ha]) b (by simp [hb])
    have hmem : f value ∈ values.map f ↔ value ∈ values := by
      constructor
      · intro h
        obtain ⟨a, ha, hab⟩ := List.mem_map.mp h
        have heq := hf a (by simp [ha]) value (by simp) hab
        exact heq ▸ ha
      · exact List.mem_map_of_mem
    rw [List.map_append, List.map_singleton, eraseDups_concat, eraseDups_concat, hprefix]
    by_cases h : value ∈ values
    · rw [if_pos (hmem.mpr h), if_pos h]
    · rw [if_neg (mt hmem.mp h), if_neg h, List.map_append, List.map_singleton]

end FirstAppearances

/-! ### Groups -/

section Groups

variable {α κ : Type} [BEq κ] [LawfulBEq κ] (key : α → κ)

omit [LawfulBEq κ] in
lemma groupBy_concat (values : List α) (value : α) :
    groupBy key (values ++ [value]) = groupBy.insert key (groupBy key values) value := by
  simp [groupBy]

/-- Inserting a value changes only the group of its key. -/
lemma insert_map (members : κ → List α) (value : α) (keys : List κ) (hkeys : keys.Nodup) :
    groupBy.insert key (keys.map fun k => (k, members k)) value =
      if key value ∈ keys then
        keys.map fun k => (k, if key value == k then members k ++ [value] else members k)
      else keys.map (fun k => (k, members k)) ++ [(key value, [value])] := by
  induction keys with
  | nil => simp [groupBy.insert]
  | cons k keys ih =>
    obtain ⟨hk, hrest⟩ := List.nodup_cons.mp hkeys
    rw [List.map_cons, groupBy.insert]
    by_cases h : k = key value
    · subst h
      have hsame : keys.map (fun k => (k, if key value == k then members k ++ [value] else
          members k)) = keys.map fun k => (k, members k) := by
        apply List.map_congr_left
        intro j hj
        have hne : ¬ key value = j := fun h => hk (h ▸ hj)
        simp [hne]
      simp [hsame]
    · have hne : ¬ key value = k := fun hk => h hk.symm
      rw [if_neg (by simpa using h), ih hrest]
      by_cases hmem : key value ∈ keys <;> simp [hmem, hne]

/-- The closed form of grouping. -/
theorem groupBy_eq (values : List α) :
    groupBy key values =
      (values.map key).eraseDups.map fun k => (k, values.filter fun value => key value == k) := by
  induction values using List.reverseRecOn with
  | nil => simp [groupBy]
  | append_singleton values value ih =>
    rw [groupBy_concat, ih, insert_map key _ _ _ (nodup_eraseDups _), List.map_append,
      List.map_singleton, eraseDups_concat]
    simp only [List.mem_eraseDups]
    by_cases h : key value ∈ values.map key
    · rw [if_pos h, if_pos h]
      apply List.map_congr_left
      intro k _
      by_cases hk : key value = k <;> simp [hk]
    · rw [if_neg h, if_neg h, List.map_append, List.map_singleton]
      congr 1
      · apply List.map_congr_left
        intro k hk
        have hne : ¬ key value = k := by
          rintro rfl
          exact h (List.mem_eraseDups.mp hk)
        simp [hne]
      · have hnone : values.filter (fun other => key other == key value) = [] := by
          rw [List.filter_eq_nil_iff]
          intro other hother heq
          exact h (List.mem_map.mpr ⟨other, hother, by simpa using heq⟩)
        simp [hnone]

lemma groupBy_keys (values : List α) :
    (groupBy key values).map Prod.fst = (values.map key).eraseDups := by
  rw [groupBy_eq, List.map_map]
  exact List.map_id _

/-- To group the values under some of the keys is to keep the groups of these keys. -/
lemma groupBy_filter (p : κ → Bool) (values : List α) :
    groupBy key (values.filter fun value => p (key value)) =
      (groupBy key values).filter fun g => p g.1 := by
  have hkeys : (values.filter fun value => p (key value)).map key =
      (values.map key).filter p := by
    rw [List.filter_map]
    rfl
  rw [groupBy_eq, groupBy_eq, hkeys, ← filter_eraseDups, List.filter_map]
  apply List.map_congr_left
  intro k hk
  have hp : p k = true := (List.mem_filter.mp hk).2
  rw [List.filter_filter, Prod.mk.injEq]
  refine ⟨rfl, List.filter_congr ?_⟩
  intro value _
  by_cases h : key value = k <;> simp [h, hp]

/-- Images of values are grouped as the values are by the keys of their images. -/
lemma groupBy_map {β : Type} (f : β → α) (values : List β) :
    groupBy key (values.map f) =
      (groupBy (fun value => key (f value)) values).map fun g => (g.1, g.2.map f) := by
  simp only [groupBy_eq, List.map_map, List.filter_map, Function.comp_def]

/-- A function that tells the keys of the values apart may be applied to the keys before or after
grouping. -/
lemma groupBy_comp_of_injOn {μ : Type} [BEq μ] [LawfulBEq μ] (f : κ → μ) (values : List α)
    (hf : ∀ a ∈ values, ∀ b ∈ values, f (key a) = f (key b) → key a = key b) :
    groupBy (fun value => f (key value)) values =
      (groupBy key values).map fun g => (f g.1, g.2) := by
  have hkeys : (values.map fun value => f (key value)).eraseDups =
      (values.map key).eraseDups.map f := by
    rw [← eraseDups_map_of_injOn f, List.map_map]
    · rfl
    · intro k hk l hl
      obtain ⟨a, ha, rfl⟩ := List.mem_map.mp hk
      obtain ⟨b, hb, rfl⟩ := List.mem_map.mp hl
      exact hf a ha b hb
  rw [groupBy_eq, groupBy_eq, hkeys, List.map_map, List.map_map]
  apply List.map_congr_left
  intro k hk
  obtain ⟨a, ha, rfl⟩ := List.mem_map.mp (List.mem_eraseDups.mp hk)
  simp only [Function.comp_apply, Prod.mk.injEq, true_and]
  apply List.filter_congr
  intro b hb
  rw [Bool.eq_iff_iff, beq_iff_eq, beq_iff_eq]
  exact ⟨hf b hb a ha, congrArg f⟩

/-- A value adds its own weight to the sum over the groups, wherever it is inserted. -/
lemma sum_insert (weight : κ → α → Nat) (groups : List (κ × List α)) (value : α) :
    ((groupBy.insert key groups value).map fun g => (g.2.map (weight g.1)).sum).sum =
      (groups.map fun g => (g.2.map (weight g.1)).sum).sum + weight (key value) value := by
  induction groups with
  | nil => simp [groupBy.insert]
  | cons group groups ih =>
    obtain ⟨k, members⟩ := group
    rw [groupBy.insert]
    by_cases h : k = key value
    · subst h
      simp
      omega
    · simp only [beq_iff_eq, h, if_false, List.map_cons, List.sum_cons, ih]
      omega

/-- Sums over the groups are sums over the values. -/
theorem sum_groupBy (weight : κ → α → Nat) (values : List α) :
    ((groupBy key values).map fun g => (g.2.map (weight g.1)).sum).sum =
      (values.map fun value => weight (key value) value).sum := by
  induction values using List.reverseRecOn with
  | nil => simp [groupBy]
  | append_singleton values value ih =>
    rw [groupBy_concat, sum_insert, ih]
    simp

/-! ### Values in the order of their groups -/

omit [LawfulBEq κ] in
/-- An inserted value comes to those of the groups. -/
lemma insert_flatMap_perm (groups : List (κ × List α)) (value : α) :
    ((groupBy.insert key groups value).flatMap Prod.snd).Perm
      (value :: groups.flatMap Prod.snd) := by
  induction groups with
  | nil => simp [groupBy.insert]
  | cons group groups ih =>
    obtain ⟨k, members⟩ := group
    rw [groupBy.insert]
    split
    · simp only [List.flatMap_cons, List.append_assoc, List.singleton_append]
      exact List.perm_middle
    · rw [List.flatMap_cons, List.flatMap_cons]
      exact (ih.append_left members).trans List.perm_middle

omit [LawfulBEq κ] in
/-- The groups have the values and no others, each as often as it comes. -/
theorem groupBy_flatMap_perm (values : List α) :
    ((groupBy key values).flatMap Prod.snd).Perm values := by
  induction values using List.reverseRecOn with
  | nil => simp [groupBy]
  | append_singleton values value ih =>
    rw [groupBy_concat]
    have hinsert := insert_flatMap_perm key (groupBy key values) value
    exact (hinsert.trans (ih.cons value)).trans (List.perm_append_singleton value values).symm

/-- Groups as grouping makes them: no key twice, and under each of them values that have it. -/
structure AreGroups (groups : List (κ × List α)) : Prop where
  nodup : (groups.map Prod.fst).Nodup
  nonempty : ∀ group ∈ groups, group.2 ≠ []
  key_eq : ∀ group ∈ groups, ∀ value ∈ group.2, key value = group.1

lemma areGroups_groupBy (values : List α) : AreGroups key (groupBy key values) := by
  refine ⟨?_, ?_, ?_⟩
  · rw [groupBy_keys]
    exact nodup_eraseDups _
  · rw [groupBy_eq]
    intro group hgroup
    obtain ⟨k, hk, rfl⟩ := List.mem_map.mp hgroup
    obtain ⟨value, hvalue, hkey⟩ := List.mem_map.mp (List.mem_eraseDups.mp hk)
    exact List.ne_nil_of_mem (List.mem_filter.mpr ⟨hvalue, by simpa using hkey⟩)
  · rw [groupBy_eq]
    intro group hgroup value hvalue
    obtain ⟨k, -, rfl⟩ := List.mem_map.mp hgroup
    exact eq_of_beq (List.mem_filter.mp hvalue).2

/-- Groups with other keys are passed over. -/
lemma insert_append {groups : List (κ × List α)} {value : α}
    (h : key value ∉ groups.map Prod.fst) (rest : List (κ × List α)) :
    groupBy.insert key (groups ++ rest) value = groups ++ groupBy.insert key rest value := by
  induction groups with
  | nil => rfl
  | cons group groups ih =>
    obtain ⟨k, members⟩ := group
    rw [List.map_cons, List.mem_cons, not_or] at h
    rw [List.cons_append, groupBy.insert, if_neg (by simpa using Ne.symm h.1), ih h.2]
    rfl

/-- Values with one key that is new make a group behind the others. -/
lemma foldl_insert_new {groups : List (κ × List α)} {k : κ} (hk : k ∉ groups.map Prod.fst)
    {members : List α} (hmembers : members ≠ []) (hkey : ∀ value ∈ members, key value = k) :
    members.foldl (groupBy.insert key) groups = groups ++ [(k, members)] := by
  induction members using List.reverseRecOn with
  | nil => exact absurd rfl hmembers
  | append_singleton members value ih =>
    have hvalue : key value = k := hkey value (by simp)
    have hnew : key value ∉ groups.map Prod.fst := hvalue ▸ hk
    rw [List.foldl_append, List.foldl_cons, List.foldl_nil]
    by_cases hfirst : members = []
    · subst hfirst
      have h := insert_append key hnew []
      rw [List.append_nil] at h
      simp [h, groupBy.insert, hvalue]
    · rw [ih hfirst fun other hother => hkey other (by simp [hother]), insert_append key hnew]
      simp [groupBy.insert, hvalue]

lemma groupBy_flatMap {groups : List (κ × List α)} (h : AreGroups key groups) :
    groupBy key (groups.flatMap Prod.snd) = groups := by
  induction groups using List.reverseRecOn with
  | nil => rfl
  | append_singleton groups group ih =>
    obtain ⟨hnodup, hnonempty, hkey⟩ := h
    rw [List.map_append, List.map_singleton, List.nodup_append] at hnodup
    have hbefore : AreGroups key groups :=
      ⟨hnodup.1, fun other hother => hnonempty other (by simp [hother]),
        fun other hother => hkey other (by simp [hother])⟩
    have hnew : group.1 ∉ groups.map Prod.fst :=
      fun hmem => hnodup.2.2 _ hmem _ (List.mem_singleton_self _) rfl
    have hgroups := ih hbefore
    unfold groupBy at hgroups ⊢
    rw [List.flatMap_append, List.flatMap_singleton, List.foldl_append, hgroups]
    exact foldl_insert_new key hnew (hnonempty group (by simp)) (hkey group (by simp))

/-- The values in the order of their groups are grouped as they were. -/
theorem groupBy_flatMap_groupBy (values : List α) :
    groupBy key ((groupBy key values).flatMap Prod.snd) = groupBy key values :=
  groupBy_flatMap key (areGroups_groupBy key values)

end Groups

end SlopLint
